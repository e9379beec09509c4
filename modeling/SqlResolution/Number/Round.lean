/-!
# Rounding quotients

A quotient is rounded to the nearest whole number; a half goes to the even
neighbour.
-/

namespace SqlResolution.Number

/-- `n / d` to the nearest natural number, a half to the even one. -/
def roundDiv (n d : Nat) : Nat :=
  let quotient := n / d
  let twice := 2 * (n % d)
  if d < twice || (twice = d && quotient % 2 = 1) then quotient + 1 else quotient

/-- `n / d` to the nearest whole number, a half to the even one. -/
def roundDivInt (n : Int) (d : Nat) : Int :=
  if n < 0 then -(roundDiv n.natAbs d : Int) else roundDiv n.natAbs d

theorem roundDiv_mul_right (n d : Nat) (h : 0 < d) : roundDiv (n * d) d = n := by
  simp [roundDiv, Nat.mul_div_cancel _ h]
  omega

end SqlResolution.Number
