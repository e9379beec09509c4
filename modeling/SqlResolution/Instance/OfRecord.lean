import SqlResolution.Instance
import SqlResolution.Notice
import SqlResolution.Text.Decimal

/-!
# Instances from records

A record becomes an instance if it has a name that is not empty; otherwise it is
dropped. A port that is no number up to 65535 and VIA parameters that do not have
their form cost only the way they describe. What is left out is noticed.

Two things stop the reading altogether: a port with more digits than a number may
have, and a source that is no address.
-/

namespace SqlResolution

open SqlResolution.Text

/-- What a record says about a way to reach an instance: nothing, something, or nothing that
makes sense. -/
inductive Said (α : Type) where
  | nothing
  | value (said : α)
  | nonsense (text : String)
  deriving DecidableEq, Repr

/-- What was said and makes sense. -/
def Said.value? {α : Type} : Said α → Option α
  | .value said => some said
  | _ => none

/-- What was said and makes no sense. -/
def Said.nonsense? {α : Type} : Said α → Option String
  | .nonsense text => some text
  | _ => none

namespace Instance

/-- Reads a port: ASCII digits, of a value up to 65535. -/
def readPort (text : String) : Except InvalidValue (Said Nat) :=
  let digits := text.toList
  if digits = [] || !digits.all isAsciiDigit then .ok (.nonsense text)
  else if Decimal.digitLimit < digits.length then .error (.tooManyDigits digits.length)
  else if Protocol.maxDataSize < Decimal.value digits then .ok (.nonsense text)
  else .ok (.value (Decimal.value digits))

/-- Reads a card and its port: everything before and after the first colon. -/
def readViaAddress? (cs : List Char) : Option ViaAddress :=
  match cutAt ':' cs with
  | (nic, some port) => some ⟨String.ofList nic, String.ofList port⟩
  | (_, none) => none

/-- Reads VIA parameters: the machine and, after commas, its cards. -/
def readVia? (text : String) : Option Via :=
  match cutAt ',' text.toList with
  | (machine, some cards) =>
    ((splitOn ',' cards).mapM readViaAddress?).map fun addresses =>
      ⟨String.ofList machine, addresses⟩
  | (_, none) => none

def tcpOf (record : Record) : Except InvalidValue (Said Nat) :=
  match record.first? "tcp" with
  | none => .ok .nothing
  | some text => readPort text

def viaOf (record : Record) : Said Via :=
  match record.first? "via" with
  | none => .nothing
  | some text =>
    match readVia? text with
    | some via => .value via
    | none => .nonsense text

def vinesOf (record : Record) : Option Vines :=
  match record.get? Record.tripleKey with
  | some [item, group, organisation] => some ⟨item, group, organisation⟩
  | _ => none

/-- The record says that the instance is clustered. -/
def clusteredOf (record : Record) : Bool :=
  match record.first? "IsClustered" with
  | some answer => lower answer = "yes"
  | none => false

/-- The name in a record, unless it is missing or empty. -/
def nameOf? (record : Record) : Option String :=
  (record.first? "InstanceName").filter (· ≠ "")

/-- The notices about ways that make no sense. -/
def nonsenseNotices (source name : String) (tcp : Said Nat) (via : Said Via) : List Notice :=
  (tcp.nonsense?.map fun text => Notice.invalidPort text name source).toList ++
  (via.nonsense?.map fun text => Notice.invalidVia text name source).toList

/-- The instance of a record, at the address it came from. -/
def assemble (record : Record) (name : String) (tcp : Said Nat) (via : Said Via)
    (address : Address) : Instance :=
  { address
    serverName := (record.first? "ServerName").getD ""
    name
    isClustered := clusteredOf record
    version := (record.first? "Version").getD ""
    tcp := tcp.value?
    pipe := record.first? "np"
    via := via.value?
    rpc := record.first? "rpc"
    spx := record.first? "spx"
    appleTalk := record.first? "adsp"
    vines := vinesOf record }

/-- Makes an instance of a record that came from `source`, if the record names one; the notices
come first. -/
def ofRecord (source : String) (record : Record) :
    List Notice × Except InvalidValue (Option Instance) :=
  match nameOf? record with
  | none => ([.unnamedRecord source record], .ok none)
  | some name =>
    match tcpOf record with
    | .error fault => ([], .error fault)
    | .ok tcp =>
      let via := viaOf record
      let made :=
        match Address.read? source with
        | some address => .ok (some (assemble record name tcp via address))
        | none => .error (.address source)
      (nonsenseNotices source name tcp via, made)

/-- Makes instances of records in order, up to the first failure. -/
def ofRecords (source : String) : List Record → List Notice × Except InvalidValue (List Instance)
  | [] => ([], .ok [])
  | record :: rest =>
    match ofRecord source record with
    | (notices, .error fault) => (notices, .error fault)
    | (notices, .ok made) =>
      let (later, result) := ofRecords source rest
      (notices ++ later, result.map (made.toList ++ ·))

end Instance

end SqlResolution
