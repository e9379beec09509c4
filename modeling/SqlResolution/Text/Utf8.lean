import SqlResolution.Text.Quoted

/-!
# UTF-8

A character takes one to four bytes. The first byte tells how many follow and,
for a few first bytes, which values the second may have: this keeps out the
overlong forms, the surrogates and what lies beyond the last code point.

Decoding passes over the bytes once and stops at the first fault. A fault is
placed at the first byte of the character that failed and covers the bytes that
were good so far, the whole of them when the data ended too soon.
-/

namespace SqlResolution.Text.Utf8

/-- Why bytes are no text. -/
inductive Reason where
  | startByte
  | continuationByte
  | endOfData
  deriving DecidableEq, Repr

/-- The bytes at which decoding stopped: where they begin, how many they are, and the first
of them. -/
structure Fault where
  position : Nat
  length : Nat
  first : UInt8
  reason : Reason
  deriving DecidableEq, Repr

/-- The fault in words: the byte itself if it is the only one, otherwise the positions. -/
def Fault.message (fault : Fault) : String :=
  let place :=
    if fault.length = 1 then s!"byte {byteText fault.first} in position {fault.position}"
    else s!"bytes in position {fault.position}-{fault.position + fault.length - 1}"
  let reason :=
    match fault.reason with
    | .startByte => "invalid start byte"
    | .continuationByte => "invalid continuation byte"
    | .endOfData => "unexpected end of data"
  s!"'utf-8' codec can't decode {place}: {reason}"

/-- What is still to come of a character: how many bytes, the bounds of the next one, and the
value of the bits so far. -/
structure Pending where
  more : Nat
  low : UInt8
  high : UInt8
  value : Nat
  deriving DecidableEq, Repr

/-- What a first byte above ASCII promises. -/
def lead? (byte : UInt8) : Option Pending :=
  if byte < 0xc2 then none
  else if byte < 0xe0 then some ⟨1, 0x80, 0xbf, byte.toNat % 0x20⟩
  else if byte < 0xf0 then
    some ⟨2, if byte = 0xe0 then 0xa0 else 0x80, if byte = 0xed then 0x9f else 0xbf,
      byte.toNat % 0x10⟩
  else if byte < 0xf5 then
    some ⟨3, if byte = 0xf0 then 0x90 else 0x80, if byte = 0xf4 then 0x8f else 0xbf,
      byte.toNat % 0x08⟩
  else none

/-- The state between two bytes: at the beginning of a character, or inside one that began
with `first` and of which `taken` bytes were read. -/
inductive State where
  | between
  | inside (first : UInt8) (taken : Nat) (pending : Pending)
  deriving DecidableEq, Repr

/-- Decodes the rest of the bytes. The current character began at `start`, and `done` holds the
characters before it, the last one first. -/
def decodeFrom (start : Nat) (done : List Char) : State → List UInt8 → Except Fault (List Char)
  | .between, [] => .ok done.reverse
  | .inside first taken _, [] => .error ⟨start, taken, first, .endOfData⟩
  | .between, byte :: rest =>
    if byte < 0x80 then
      decodeFrom (start + 1) (Char.ofNat byte.toNat :: done) .between rest
    else
      match lead? byte with
      | none => .error ⟨start, 1, byte, .startByte⟩
      | some pending => decodeFrom start done (.inside byte 1 pending) rest
  | .inside first taken pending, byte :: rest =>
    if pending.low ≤ byte && byte ≤ pending.high then
      let value := pending.value * 0x40 + byte.toNat % 0x40
      if pending.more ≤ 1 then
        decodeFrom (start + taken + 1) (Char.ofNat value :: done) .between rest
      else
        decodeFrom start done (.inside first (taken + 1) ⟨pending.more - 1, 0x80, 0xbf, value⟩) rest
    else .error ⟨start, taken, first, .continuationByte⟩

/-- The text whose encoding the bytes are. -/
def decode (bytes : List UInt8) : Except Fault String :=
  (decodeFrom 0 [] .between bytes).map String.ofList

def encode (text : String) : List UInt8 :=
  text.toList.flatMap String.utf8EncodeChar

end SqlResolution.Text.Utf8
