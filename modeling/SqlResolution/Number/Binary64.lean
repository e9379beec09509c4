import SqlResolution.Number.Round

/-!
# Double-precision numbers

A finite number is a sign and a product of a whole number below 2^53 and a power
of two, the smallest of which is 2^-1074. Zero has both signs. Every quotient of
natural numbers has a nearest one, a tie going to the even whole number, and
what is too large becomes infinite.
-/

namespace SqlResolution.Number

/-- A number of double precision. -/
inductive Binary64 where
  | finite (negative : Bool) (significand : Nat) (exponent : Int)
  | infinite (negative : Bool)
  | notANumber
  deriving DecidableEq, Repr

namespace Binary64

/-- The number of binary digits; none for zero. -/
def bitLength (n : Nat) : Nat :=
  if n = 0 then 0 else Nat.log2 n + 1

/-- The number nearest to `n` that has so many binary digits at most, but for zeros at its end. -/
def roundDigits (digits n : Nat) : Nat :=
  let unit := Nat.pow 2 (bitLength n - digits)
  roundDiv n unit * unit

/-- What is short enough is not rounded. -/
theorem roundDigits_of_bitLength_le {digits n : Nat} (h : bitLength n ≤ digits) :
    roundDigits digits n = n := by
  have hunit : Nat.pow 2 (bitLength n - digits) = 1 := by
    rw [Nat.sub_eq_zero_of_le h]
  have hdiv := roundDiv_mul_right n 1 Nat.one_pos
  unfold roundDigits
  rw [hunit]
  simpa using hdiv

/-- `n * 2 ^ e` as a quotient of natural numbers. -/
def scaled (n : Nat) (e : Int) : Nat × Nat :=
  if 0 ≤ e then (n * Nat.pow 2 e.toNat, 1) else (n, Nat.pow 2 (-e).toNat)

/-- The exponent of the largest power of two that is at most `num / den`. -/
def floorLog2 (num den : Nat) : Int :=
  let guess : Int := bitLength num - bitLength den
  let (n, d) :=
    if 0 ≤ guess then (num, den * Nat.pow 2 guess.toNat)
    else (num * Nat.pow 2 (-guess).toNat, den)
  if n < d then guess - 1 else guess

/-- The number nearest to `num / den`. -/
def ofRatio (negative : Bool) (num den : Nat) : Binary64 :=
  if num = 0 then finite negative 0 (-1074)
  else
    let exponent := max (floorLog2 num den - 52) (-1074)
    let significand :=
      if 0 ≤ exponent then roundDiv num (den * Nat.pow 2 exponent.toNat)
      else roundDiv (num * Nat.pow 2 (-exponent).toNat) den
    let (significand, exponent) :=
      if significand = Nat.pow 2 53 then (Nat.pow 2 52, exponent + 1) else (significand, exponent)
    if 971 < exponent then infinite negative else finite negative significand exponent

/-- The number nearest to `digits * 10 ^ power`. Where the power alone decides, the digits are
not multiplied out. -/
def ofDecimal (negative : Bool) (digits : Nat) (power : Int) : Binary64 :=
  if digits = 0 then finite negative 0 (-1074)
  else
    let size : Int := (Nat.toDigits 10 digits).length + power
    if 400 < size then infinite negative
    else if size < -400 then finite negative 0 (-1074)
    else if 0 ≤ power then ofRatio negative (digits * Nat.pow 10 power.toNat) 1
    else ofRatio negative digits (Nat.pow 10 (-power).toNat)

/-- How many times the smallest number above zero a finite number is. -/
def units? : Binary64 → Option Int
  | finite negative significand exponent =>
    let size : Int := significand * Nat.pow 2 (exponent + 1074).toNat
    some (if negative then -size else size)
  | infinite _ | notANumber => none

/-- The finite number nearest to so many times the smallest one, as far as its size is concerned:
there is no largest. -/
def nearestUnits (n : Int) : Int :=
  if n < 0 then -(roundDigits 53 n.natAbs : Int) else roundDigits 53 n.natAbs

end Binary64

end SqlResolution.Number
