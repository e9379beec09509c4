/-!
# The numbers of the protocol

A server of instances listens on one UDP port. The first byte of a datagram says
what it is; sizes and ports take two bytes, the low one first.
-/

namespace SqlResolution.Protocol

def port : Int := 1434

/-- The address of every host on the local network. -/
def broadcastAddress : String := "255.255.255.255"

/-- Asks for all instances. -/
def enumerateOpcode : UInt8 := 0x02

/-- Asks for one instance by its name. -/
def instanceOpcode : UInt8 := 0x04

/-- Asks for the administration port of an instance. -/
def adminOpcode : UInt8 := 0x0f

/-- Begins every answer. -/
def responseOpcode : UInt8 := 0x05

/-- The version of the questions and answers about administration ports. -/
def adminVersion : UInt8 := 0x01

/-- The length of an answer that names an administration port. -/
def adminResponseSize : Nat := 6

/-- The bytes of an answer before its data. -/
def headerSize : Nat := 3

/-- The most bytes of data that an answer can announce. -/
def maxDataSize : Nat := 0xffff

/-- The most characters of an instance name. -/
def maxNameLength : Nat := 32

/-- Datagrams that wait to be taken, at most. -/
def maxQueueSize : Int := 1000

def programVersion : String := "0.1.0"

/-- What this library goes by in the log and in messages. -/
def libraryName : String := "ssrp_discovery_protocol"

/-- The size that two bytes announce. -/
def wordOfBytes (low high : UInt8) : Nat :=
  low.toNat + 256 * high.toNat

def bytesOfWord (n : Nat) : List UInt8 :=
  [n.toUInt8, (n / 256).toUInt8]

theorem wordOfBytes_lt (low high : UInt8) : wordOfBytes low high < 65536 := by
  have hlow := low.toNat_lt
  have hhigh := high.toNat_lt
  unfold wordOfBytes
  omega

theorem bytesOfWord_wordOfBytes (low high : UInt8) :
    bytesOfWord (wordOfBytes low high) = [low, high] := by
  have hlow := low.toNat_lt
  have hhigh := high.toNat_lt
  simp only [bytesOfWord, wordOfBytes, List.cons.injEq, and_true]
  constructor
  · apply UInt8.toNat_inj.1
    simp
  · apply UInt8.toNat_inj.1
    simp
    omega

theorem wordOfBytes_bytesOfWord {n : Nat} (h : n < 65536) :
    ∃ low high, bytesOfWord n = [low, high] ∧ wordOfBytes low high = n := by
  refine ⟨_, _, rfl, ?_⟩
  simp only [wordOfBytes, UInt8.toNat_ofNat']
  omega

end SqlResolution.Protocol
