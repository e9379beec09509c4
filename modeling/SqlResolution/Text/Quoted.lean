import SqlResolution.Text.Printable

/-!
# Quoted text and bytes

Messages show foreign text between quotation marks, so that a reader sees where
it begins and ends and what it holds. The mark is the single one, except around
a text that has single marks and no double ones. The mark itself, the backslash
and whatever is not printable are written as escapes.
-/

namespace SqlResolution.Text

/-- The digits of a number to base 16, filled up with zeros on the left to a width. -/
def hexDigits (width n : Nat) : List Char :=
  let digits := Nat.toDigits 16 n
  List.replicate (width - digits.length) '0' ++ digits

/-- The mark that stands around a text: whichever spares escapes, the single one if both do. -/
def quoteMark (hasSingle hasDouble : Bool) : Char :=
  if hasSingle && !hasDouble then '\x22' else '\x27'

/-- The escapes that text and bytes have in common. -/
def sharedEscape? (mark c : Char) : Option (List Char) :=
  if c = mark || c = '\x5c' then some ['\x5c', c]
  else if c = '\n' then some ['\x5c', 'n']
  else if c = '\r' then some ['\x5c', 'r']
  else if c = '\t' then some ['\x5c', 't']
  else none

def escapeChar (mark c : Char) : List Char :=
  match sharedEscape? mark c with
  | some escape => escape
  | none =>
    if isPrintable c then [c]
    else if c.toNat < 0x100 then '\x5c' :: 'x' :: hexDigits 2 c.toNat
    else if c.toNat < 0x10000 then '\x5c' :: 'u' :: hexDigits 4 c.toNat
    else '\x5c' :: 'U' :: hexDigits 8 c.toNat

def quoted (text : String) : String :=
  let mark := quoteMark (text.toList.contains '\x27') (text.toList.contains '\x22')
  String.ofList (mark :: text.toList.flatMap (escapeChar mark) ++ [mark])

/-- One byte between quotation marks: ASCII stands for itself. -/
def escapeByte (mark : Char) (byte : UInt8) : List Char :=
  match sharedEscape? mark (Char.ofNat byte.toNat) with
  | some escape => escape
  | none =>
    if 0x20 ≤ byte && byte < 0x7f then [Char.ofNat byte.toNat]
    else '\x5c' :: 'x' :: hexDigits 2 byte.toNat

/-- Bytes between quotation marks, led by a `b`. -/
def quotedBytes (bytes : List UInt8) : String :=
  let mark := quoteMark (bytes.contains 0x27) (bytes.contains 0x22)
  String.ofList ('b' :: mark :: bytes.flatMap (escapeByte mark) ++ [mark])

/-- A byte as two digits to base 16 after `0x`. -/
def byteText (byte : UInt8) : String :=
  "0x" ++ String.ofList (hexDigits 2 byte.toNat)

end SqlResolution.Text
