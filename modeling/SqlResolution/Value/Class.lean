import SqlResolution.Failure
import SqlResolution.Instance
import SqlResolution.Value

/-!
# The classes of records

Each class of records has fields in a fixed order, some with a value they have
when none is given. An instance needs a name and an address; the address may be
given as text. Fields may hold any value, but the name of an instance must be
something that can be counted, and VIA addresses a sequence.
-/

namespace SqlResolution.Value

/-- The names of the fields of each class, with the values of those that need not be given. -/
def classes : List (String × List (String × Option Value)) := [
  ("TcpInfo", [("port", none)]),
  ("NamedPipeInfo", [("name", none)]),
  ("DacInfo", [("port", none)]),
  ("ViaAddress", [("nic", none), ("port", none)]),
  ("ViaInfo", [("machine_name", none), ("addresses", none)]),
  ("RpcInfo", [("computer_name", none)]),
  ("SpxInfo", [("service_name", none)]),
  ("AdspInfo", [("object_name", none)]),
  ("BvInfo", [("item_name", none), ("group_name", none), ("org_name", none)]),
  ("InstanceInfo", [
    ("addr", none), ("server_name", some (text "")), ("instance_name", none),
    ("is_clustered", some (flag false)), ("version", some (text "")),
    ("tcp_info", some null), ("np_info", some null), ("via_info", some null),
    ("rpc_info", some null), ("spx_info", some null), ("adsp_info", some null),
    ("bv_info", some null)])
]

/-- The name of a class, if a value is that. -/
def asClassName : Value → Except Failure String
  | text name => if classes.any (·.1 = name) then .ok name else .error (.unknownClass name)
  | value => .error (.wrongType (.noClassName value.typeName))

def field (fields : List (String × Value)) (name : String) : Value :=
  (fields.lookup name).getD null

/-- The fields with another value for one of them. -/
def setField (fields : List (String × Value)) (name : String) (value : Value) :
    List (String × Value) :=
  fields.map fun (other, found) => (other, if other = name then value else found)

/-- The fields of a class that must be given and are not. -/
def missing (known : List (String × Option Value)) (given : List (String × Value)) :
    List String :=
  (known.filter fun (name, default) => default.isNone && (given.lookup name).isNone).map (·.1)

/-- What a record calls itself. -/
def ownName : String := "self"

/-- All fields of a class, in order. Only fields that the class has may be given. -/
def fill (className : String) (given : List (String × Value)) :
    Except WrongType (List (String × Value)) :=
  let known := (classes.lookup className).getD []
  match given.find? fun (name, _) => (known.lookup name).isNone with
  | some (name, _) =>
    if name = ownName then .error (.reservedField className name)
    else .error (.unknownField className name)
  | none =>
    match missing known given with
    | first :: others => .error (.missingFields className first others)
    | [] => .ok (known.map fun (name, default) =>
      (name, (given.lookup name).getD (default.getD null)))

/-- A text or a sequence without anything in it. -/
def isEmpty : Value → Except WrongType Bool
  | text content => .ok content.isEmpty
  | list items | tuple items => .ok items.isEmpty
  | mapping items => .ok items.isEmpty
  | value => .error (.uncounted value.typeName)

/-- The items of a sequence; the characters of a text, and the keys of a mapping. -/
def items : Value → Except WrongType (List Value)
  | list items | tuple items => .ok items
  | text content => .ok (content.toList.map fun c => text c.toString)
  | mapping items => .ok (items.map fun (key, _) => text key)
  | value => .error (.noSequence value.typeName)

/-- An address, which may be given as text. -/
def toAddress : Value → Except InvalidValue Value
  | text content =>
    match Address.read? content with
    | some found => .ok (address found)
    | none => .error (.address content)
  | value => .ok value

/-- The record of a class with the given fields. -/
def construct (className : String) (given : List (String × Value)) : Except Failure Value := do
  let fields ← (fill className given).mapError .wrongType
  if className = "InstanceInfo" then
    let isNameless ← (field fields "instance_name").isEmpty.mapError .wrongType
    if isNameless then throw (.invalidValue .emptyInstanceName)
    let found ← (toAddress (field fields "addr")).mapError .invalidValue
    return record className (setField fields "addr" found)
  else if className = "ViaInfo" then
    let found ← (field fields "addresses").items.mapError .wrongType
    return record className (setField fields "addresses" (tuple found))
  else return record className fields

end SqlResolution.Value

namespace SqlResolution

def AdminPort.toValue (x : AdminPort) : Value :=
  .record "DacInfo" [("port", .integer x.port)]

/-- A card as a record. -/
def ViaAddress.toValue (x : ViaAddress) : Value :=
  .record "ViaAddress" [("nic", .text x.nic), ("port", .text x.port)]

def Via.toValue (x : Via) : Value :=
  .record "ViaInfo" [
    ("machine_name", .text x.machine),
    ("addresses", .tuple (x.addresses.map ViaAddress.toValue))]

/-- A name of three parts as a record. -/
def Vines.toValue (x : Vines) : Value :=
  .record "BvInfo" [
    ("item_name", .text x.item), ("group_name", .text x.group),
    ("org_name", .text x.organisation)]

namespace Instance

/-- A way of one text as a record with one field. -/
def single (className fieldName : String) (content : Option String) : Value :=
  match content with
  | some found => .record className [(fieldName, .text found)]
  | none => .null

/-- A way of a type of its own as a record. -/
def optional {α : Type} (toValue : α → Value) (content : Option α) : Value :=
  match content with
  | some found => toValue found
  | none => .null

def toValue (x : Instance) : Value :=
  .record "InstanceInfo" [
    ("addr", .address x.address),
    ("server_name", .text x.serverName),
    ("instance_name", .text x.name),
    ("is_clustered", .flag x.isClustered),
    ("version", .text x.version),
    ("tcp_info", optional (fun port => .record "TcpInfo" [("port", .integer port)]) x.tcp),
    ("np_info", single "NamedPipeInfo" "name" x.pipe),
    ("via_info", optional Via.toValue x.via),
    ("rpc_info", single "RpcInfo" "computer_name" x.rpc),
    ("spx_info", single "SpxInfo" "service_name" x.spx),
    ("adsp_info", single "AdspInfo" "object_name" x.appleTalk),
    ("bv_info", optional Vines.toValue x.vines)]

end Instance

end SqlResolution
