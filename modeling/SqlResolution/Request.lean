import SqlResolution.Protocol
import SqlResolution.Text.Quoted

/-!
# Requests

A client asks for all instances, for one instance by name, or for the
administration port of one instance. On the wire a request is its opcode, for an
administration port a version, and the name with a zero byte after it.

A name has 1 to 32 ASCII characters and no zero character. Reading a request
takes the zero byte at the end or its absence, and holds the name to the same
rules.
-/

namespace SqlResolution

open SqlResolution.Text

/-- What a client asks for. -/
inductive Request where
  | enumerate
  | named (name : String)
  | adminPort (name : String)
  deriving DecidableEq, Repr

namespace Request

inductive Kind where
  | enumerate
  | named
  | adminPort
  deriving DecidableEq, Repr

def Kind.label : Kind → String
  | .enumerate => "ENUMERATE_ALL"
  | .named => "INSTANCE_BY_NAME"
  | .adminPort => "DAC_BY_NAME"

/-- The kind that is shown under a name. -/
def Kind.ofLabel? (label : String) : Option Kind :=
  [enumerate, named, adminPort].find? (·.label = label)

/-- Why a kind and a name do not go together. -/
inductive KindFault where
  | needlessName
  | missingName (kind : Kind)
  deriving DecidableEq, Repr

def KindFault.message : KindFault → String
  | .needlessName => s!"{Kind.enumerate.label} requests do not take an instance name"
  | .missingName kind => s!"{kind.label} requests require an instance name"

/-- The request of a kind; the kinds that ask about one instance need its name. -/
def ofKind (kind : Kind) (name : Option String) : Except KindFault Request :=
  match kind, name with
  | .enumerate, none => .ok enumerate
  | .enumerate, some _ => .error .needlessName
  | .named, some name => .ok (named name)
  | .adminPort, some name => .ok (adminPort name)
  | kind, none => .error (.missingName kind)

def kind : Request → Kind
  | enumerate => .enumerate
  | named _ => .named
  | adminPort _ => .adminPort

def name? : Request → Option String
  | enumerate => none
  | named name => some name
  | adminPort name => some name

/-- More than one host may answer. -/
def expectsMany (request : Request) : Bool :=
  request = enumerate

def text (request : Request) : String :=
  match request.name? with
  | none => s!"SsrpRequest({request.kind.label})"
  | some name => s!"SsrpRequest({request.kind.label}, {quoted name})"

/-! ## The wire -/

/-- What is wrong with an instance name. -/
inductive NameFault where
  | empty
  | tooLong (name : String)
  | notAscii (name : String)
  | zeroCharacter (name : String)
  deriving DecidableEq, Repr

def NameFault.message : NameFault → String
  | .empty => "Instance name must not be empty"
  | .tooLong name =>
    s!"Instance name {quoted name} is longer than {Protocol.maxNameLength} characters"
  | .notAscii name => s!"Instance name {quoted name} contains non-ASCII characters"
  | .zeroCharacter name => s!"Instance name {quoted name} contains a NUL character"

/-- Why a request cannot be written or read. -/
inductive Fault where
  | name (fault : NameFault)
  | emptyDatagram
  | trailingBytes (count : Nat)
  | version
  | opcode (byte : UInt8)
  | foreignName
  deriving DecidableEq, Repr

def Fault.message : Fault → String
  | .name fault => fault.message
  | .emptyDatagram => "Empty request datagram"
  | .trailingBytes count => s!"Unexpected {count} trailing bytes in CLNT_BCAST_EX request"
  | .version => "CLNT_UCAST_DAC request has a missing or unsupported protocol version"
  | .opcode byte => s!"Unknown request opcode {byteText byte}"
  | .foreignName => "Instance name in request is not ASCII"

/-- A character that has a byte of its own on the wire. -/
def isAscii (c : Char) : Bool :=
  c.toNat < 128

/-- The bytes of a name and the zero byte after it. -/
def encodeName (name : String) : Except NameFault (List UInt8) :=
  let cs := name.toList
  if cs = [] then .error .empty
  else if Protocol.maxNameLength < cs.length then .error (.tooLong name)
  else if !cs.all isAscii then .error (.notAscii name)
  else if cs.contains '\x00' then .error (.zeroCharacter name)
  else .ok (cs.map (·.toNat.toUInt8) ++ [0])

def encode : Request → Except NameFault (List UInt8)
  | enumerate => .ok [Protocol.enumerateOpcode]
  | named name => (encodeName name).map (Protocol.instanceOpcode :: ·)
  | adminPort name =>
    (encodeName name).map fun bytes => Protocol.adminOpcode :: Protocol.adminVersion :: bytes

/-- Bytes without the zero byte at their end. -/
def dropTerminator (bytes : List UInt8) : List UInt8 :=
  if bytes.getLast? = some 0 then bytes.dropLast else bytes

/-- Reads a name, which is then held to the rules of writing. -/
def decodeName (bytes : List UInt8) : Except Fault String := do
  let bytes := dropTerminator bytes
  if !bytes.all (· < 128) then throw .foreignName
  let name := String.ofList (bytes.map fun byte => Char.ofNat byte.toNat)
  match encodeName name with
  | .ok _ => return name
  | .error fault => throw (.name fault)

def decode : List UInt8 → Except Fault Request
  | [] => .error .emptyDatagram
  | opcode :: rest =>
    if opcode = Protocol.enumerateOpcode then
      if rest = [] then .ok enumerate else .error (.trailingBytes rest.length)
    else if opcode = Protocol.instanceOpcode then (decodeName rest).map named
    else if opcode = Protocol.adminOpcode then
      match rest with
      | version :: bytes =>
        if version = Protocol.adminVersion then (decodeName bytes).map adminPort
        else .error .version
      | [] => .error .version
    else .error (.opcode opcode)

end Request

end SqlResolution
