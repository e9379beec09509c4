import SqlResolution.Number.Binary64

/-!
# The shortest decimal of a number

A number of double precision is shown by the fewest digits that read back as it,
and among those by the ones nearest to it. The reals that round to a number form
an interval around it, ends included when its significand is even. So for one,
two and more digits in turn the two decimals next to the number are tried: the
first count with a decimal in the interval wins. Seventeen digits always do.

Everything is done in whole numbers: the interval, the number and the decimals
share one denominator.
-/

namespace SqlResolution.Number

/-- A decimal numeral: its digits as a whole number, and the power of ten they are taken at. -/
structure Numeral where
  digits : Nat
  power : Int
  deriving DecidableEq, Repr

/-- A number between the ends of the interval of the reals that round to it, all three over
one denominator. -/
structure Interval where
  low : Nat
  mid : Nat
  high : Nat
  denominator : Nat
  closed : Bool

/-- The reals that round to `significand * 2 ^ exponent`. Below a power of two the neighbours
lie twice as close. -/
def Interval.around (significand : Nat) (exponent : Int) : Interval :=
  let below := if significand = Nat.pow 2 52 && -1074 < exponent then 1 else 2
  let (up, down) := Binary64.scaled 1 (exponent - 2)
  { low := (4 * significand - below) * up
    mid := 4 * significand * up
    high := (4 * significand + 2) * up
    denominator := down
    closed := significand % 2 = 0 }

/-- How many digits stand before the point; for a number below one, less the zeros after the
point. -/
def decimalSize (num den : Nat) : Int :=
  if den ≤ num then (Nat.toDigits 10 (num / den)).length
  else 1 - ((Nat.toDigits 10 ((den + num - 1) / num - 1)).length : Int)

/-- The decimal lies in the interval. -/
def Interval.contains (i : Interval) (x : Numeral) : Bool :=
  let up := Nat.pow 10 x.power.toNat
  let down := Nat.pow 10 (-x.power).toNat
  let point := x.digits * up * i.denominator
  if i.closed then i.low * down ≤ point && point ≤ i.high * down
  else i.low * down < point && point < i.high * down

/-- The decimal of a number of digits that lies in the interval nearest to its middle. -/
def Interval.candidate? (i : Interval) (count : Nat) : Option Numeral :=
  let power := decimalSize i.mid i.denominator - count
  let up := Nat.pow 10 power.toNat
  let down := Nat.pow 10 (-power).toNat
  let digits := i.mid * down / (up * i.denominator)
  let remainder := i.mid * down % (up * i.denominator)
  let floor : Numeral := ⟨digits, power⟩
  let ceiling : Numeral := ⟨digits + 1, power⟩
  let upper := up * i.denominator < 2 * remainder ||
    (2 * remainder = up * i.denominator && digits % 2 = 1)
  let (first, second) := if upper then (ceiling, floor) else (floor, ceiling)
  if i.contains first then some first
  else if i.contains second then some second
  else none

/-- A numeral without the zeros at the end of its digits; `fuel` bounds their number. -/
def Numeral.trim : Nat → Numeral → Numeral
  | 0, x => x
  | fuel + 1, x =>
    if x.digits ≠ 0 && x.digits % 10 = 0 then trim fuel ⟨x.digits / 10, x.power + 1⟩ else x

/-- The shortest decimal that reads back as `significand * 2 ^ exponent`, above zero. -/
def shortest (significand : Nat) (exponent : Int) : Numeral :=
  let i := Interval.around significand exponent
  let found := (List.range 17).findSome? fun n => i.candidate? (n + 1)
  (found.getD ⟨significand, exponent⟩).trim 20

/-- A numeral with the point where it belongs from 10^-4 up to 10^16, and with one digit before
the point and an exponent of at least two digits beyond. A whole number keeps a zero after the
point. -/
def Numeral.text (x : Numeral) : String :=
  let digits := Nat.toDigits 10 x.digits
  let point : Int := digits.length + x.power
  let zeros (n : Int) := List.replicate n.toNat '0'
  if point < -3 || 16 < point then
    let fraction := if digits.length ≤ 1 then [] else '.' :: digits.drop 1
    let e := Nat.toDigits 10 (point - 1).natAbs
    let e := if e.length < 2 then '0' :: e else e
    String.ofList (digits.take 1 ++ fraction ++ 'e' :: (if point < 1 then '-' else '+') :: e)
  else if point ≤ 0 then String.ofList ('0' :: '.' :: zeros (-point) ++ digits)
  else if 0 ≤ x.power then String.ofList (digits ++ zeros x.power ++ ['.', '0'])
  else String.ofList (digits.take point.toNat ++ '.' :: digits.drop point.toNat)

def Binary64.text : Binary64 → String
  | finite negative significand exponent =>
    (if negative then "-" else "") ++
      (if significand = 0 then "0.0" else (shortest significand exponent).text)
  | infinite negative => if negative then "-inf" else "inf"
  | notANumber => "nan"

end SqlResolution.Number
