import SqlResolution.Instance
import SqlResolution.Text.Decimal

/-!
# Instances as text

The text of an instance as a server writes it: the four facts every instance has,
then the ways to reach it that are present, each key and value with a semicolon
after it, and one more semicolon.

Not every instance can be written. Its name must not be empty, no text in it may
hold a semicolon, a port must fit in two bytes, and VIA needs a card, with no
commas in its names and ports and no colons in the names of cards.
-/

namespace SqlResolution

open SqlResolution.Text

namespace Via

def write (via : Via) : String :=
  via.machine ++ String.join (via.addresses.map fun card => "," ++ card.nic ++ ":" ++ card.port)

/-- The characters of VIA parameters do not disturb their form. -/
def IsWritable (via : Via) : Prop :=
  via.addresses ≠ [] ∧
  (∀ c ∈ via.machine.toList, c ≠ ';' ∧ c ≠ ',') ∧
  ∀ card ∈ via.addresses,
    (∀ c ∈ card.nic.toList, c ≠ ';' ∧ c ≠ ',' ∧ c ≠ ':') ∧
    (∀ c ∈ card.port.toList, c ≠ ';' ∧ c ≠ ',')

end Via

namespace Instance

/-- A key and a value, each with a semicolon after it. -/
def writeField (key value : String) : String :=
  key ++ ";" ++ value ++ ";"

/-- A key and a value if there is one. -/
def writeField? (key : String) (value : Option String) : String :=
  (value.map (writeField key)).getD ""

def write (x : Instance) : String :=
  writeField "ServerName" x.serverName ++
  writeField "InstanceName" x.name ++
  writeField "IsClustered" (if x.isClustered then "Yes" else "No") ++
  writeField "Version" x.version ++
  writeField? "tcp" (x.tcp.map fun port => String.ofList (Decimal.digits port)) ++
  writeField? "np" x.pipe ++
  writeField? "via" (x.via.map Via.write) ++
  writeField? "rpc" x.rpc ++
  writeField? "spx" x.spx ++
  writeField? "adsp" x.appleTalk ++
  writeField? "bv" (x.vines.map fun v => v.item ++ ";" ++ v.group ++ ";" ++ v.organisation) ++
  ";"

def writeAll (instances : List Instance) : String :=
  String.join (instances.map write)

/-- No semicolon is in a text. -/
def Plain (text : String) : Prop :=
  ';' ∉ text.toList

/-- The instance has a text that says the same. -/
structure IsWritable (x : Instance) : Prop where
  name_ne : x.name ≠ ""
  name : Plain x.name
  serverName : Plain x.serverName
  version : Plain x.version
  tcp : ∀ port ∈ x.tcp, port ≤ 65535
  pipe : ∀ text ∈ x.pipe, Plain text
  via : ∀ via ∈ x.via, via.IsWritable
  rpc : ∀ text ∈ x.rpc, Plain text
  spx : ∀ text ∈ x.spx, Plain text
  appleTalk : ∀ text ∈ x.appleTalk, Plain text
  vines : ∀ v ∈ x.vines, Plain v.item ∧ Plain v.group ∧ Plain v.organisation

end Instance

end SqlResolution
