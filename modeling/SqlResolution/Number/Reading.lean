import SqlResolution.Number.Binary64
import SqlResolution.Text.Blank
import SqlResolution.Text.Decimal
import SqlResolution.Text.Digit

/-!
# Numbers as people type them

A number may be surrounded by blanks, may use the digits of any script, and may
have single underscores between digits. A whole number is digits after an
optional sign; a real number has a point, an exponent, or both, or is one of the
words for infinity and for what is no number.

Whatever the script, each digit is read as its ASCII one; no other character from
outside ASCII has a place in a number.
-/

namespace SqlResolution.Number

open SqlResolution.Text

/-- A text without the blanks around it. -/
def strip (cs : List Char) : List Char :=
  ((cs.dropWhile isBlank).reverse.dropWhile isBlank).reverse

/-- A text with its digits made ASCII, if it has no other foreign characters. -/
def plain? (cs : List Char) : Option (List Char) :=
  cs.mapM fun c =>
    if c.toNat < 128 then some c
    else (digitValue? c).map fun d => Char.ofNat ('0'.toNat + d)

/-- Takes the underscores out of a text, if each stands between two digits. -/
def joinGroups? (before : Bool) : List Char → Option (List Char)
  | [] => some []
  | c :: rest =>
    if c = '_' then
      match rest with
      | d :: _ => if before && isAsciiDigit d then joinGroups? false rest else none
      | [] => none
    else (joinGroups? (isAsciiDigit c) rest).map (c :: ·)

/-- The sign in front of a number, and what follows it. -/
def splitSign : List Char → Bool × List Char
  | '-' :: rest => (true, rest)
  | '+' :: rest => (false, rest)
  | cs => (false, cs)

def readInteger? (text : String) : Option Int := do
  let cs ← joinGroups? false (← plain? (strip text.toList))
  let (negative, ds) := splitSign cs
  if ds.isEmpty || !ds.all isAsciiDigit || Decimal.digitLimit < ds.length then none
  else if negative then some (-(Decimal.value ds : Int))
  else some (Decimal.value ds)

/-- Reads an exponent: nothing at all, or an `e` and a whole number. -/
def readExponent? : List Char → Option Int
  | [] => some 0
  | e :: rest =>
    if e = 'e' || e = 'E' then
      let (negative, ds) := splitSign rest
      if ds.isEmpty || !ds.all isAsciiDigit then none
      else if negative then some (-(Decimal.value ds : Int))
      else some (Decimal.value ds)
    else none

/-- Reads a real number without its sign. -/
def readMagnitude? (negative : Bool) (cs : List Char) : Option Binary64 :=
  let word := String.ofList (cs.map Char.toLower)
  if word = "inf" || word = "infinity" then some (.infinite negative)
  else if word = "nan" then some .notANumber
  else do
    let whole := cs.takeWhile isAsciiDigit
    let rest := cs.dropWhile isAsciiDigit
    let (fraction, rest) :=
      match rest with
      | '.' :: after => (after.takeWhile isAsciiDigit, after.dropWhile isAsciiDigit)
      | _ => ([], rest)
    if whole.isEmpty && fraction.isEmpty then none
    else
      let exponent ← readExponent? rest
      some (.ofDecimal negative (Decimal.value (whole ++ fraction)) (exponent - fraction.length))

def readReal? (text : String) : Option Binary64 := do
  let cs ← joinGroups? false (← plain? (strip text.toList))
  let (negative, magnitude) := splitSign cs
  readMagnitude? negative magnitude

end SqlResolution.Number
