import SqlResolution.Protocol
import SqlResolution.Text.Quoted

/-!
# The frame of an answer

An answer begins with its opcode and the size of its data in two bytes. The size
must be exactly that of the bytes that follow. What can be wrong is asked in the
order of the bytes: opcode, size field, size.
-/

namespace SqlResolution.Frame

open SqlResolution.Text

/-- Why a datagram is no framed answer. -/
inductive Fault where
  | empty
  | opcode (byte : UInt8)
  | noSize
  | truncated (declared carried : Nat)
  | surplus (declared carried : Nat)
  deriving DecidableEq, Repr

/-- The complaint about a first byte, shared by all kinds of answers. -/
def opcodeMessage (byte : UInt8) : String :=
  s!"Expected SVR_RESP ({byteText Protocol.responseOpcode}), found {byteText byte}"

def Fault.message : Fault → String
  | .empty => "Empty response datagram"
  | .opcode byte => opcodeMessage byte
  | .noSize => "Response datagram is too short to contain a size field"
  | .truncated declared carried =>
    s!"Truncated response: header declares {declared} bytes but datagram carries {carried}"
  | .surplus declared carried =>
    s!"Mismatch between response size {declared} and datagram data size {carried}"

/-- The data of a framed answer. -/
def decode : List UInt8 → Except Fault (List UInt8)
  | [] => .error .empty
  | opcode :: rest =>
    if opcode ≠ Protocol.responseOpcode then .error (.opcode opcode)
    else
      match rest with
      | low :: high :: payload =>
        let declared := Protocol.wordOfBytes low high
        if payload.length < declared then .error (.truncated declared payload.length)
        else if declared < payload.length then .error (.surplus declared payload.length)
        else .ok payload
      | _ => .error .noSize

/-- Data that no frame can hold, by its length. -/
structure TooLarge where
  length : Nat
  deriving DecidableEq, Repr

def TooLarge.message (fault : TooLarge) : String :=
  s!"Response data of {fault.length} bytes does not fit in a 16-bit size field"

def encode (payload : List UInt8) : Except TooLarge (List UInt8) :=
  if Protocol.maxDataSize < payload.length then .error ⟨payload.length⟩
  else .ok (Protocol.responseOpcode :: Protocol.bytesOfWord payload.length ++ payload)

end SqlResolution.Frame
