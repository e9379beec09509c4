/-!
# Decimal numerals

Natural numbers as texts of ASCII digits. Writing gives no leading zeros; reading
takes any number of them. Main statement: `value_digits`, what is written reads
back.
-/

namespace SqlResolution.Text.Decimal

/-- The most digits that a whole number may be written with; leading zeros count. -/
def digitLimit : Nat := 4300

def digitChar (d : Nat) : Char :=
  Char.ofNat ('0'.toNat + d)

/-- The digits of a number, none of them a leading zero. -/
def digits (n : Nat) : List Char :=
  if n < 10 then [digitChar n] else digits (n / 10) ++ [digitChar (n % 10)]
  termination_by n

def value (ds : List Char) : Nat :=
  ds.foldl (fun n d => 10 * n + (d.toNat - '0'.toNat)) 0

theorem digitChar_toNat {d : Nat} (h : d < 10) : (digitChar d).toNat - '0'.toNat = d := by
  have : d = 0 ∨ d = 1 ∨ d = 2 ∨ d = 3 ∨ d = 4 ∨ d = 5 ∨ d = 6 ∨ d = 7 ∨ d = 8 ∨ d = 9 := by omega
  rcases this with rfl | rfl | rfl | rfl | rfl | rfl | rfl | rfl | rfl | rfl <;> rfl

theorem value_append (ds : List Char) (d : Char) :
    value (ds ++ [d]) = 10 * value ds + (d.toNat - '0'.toNat) := by
  simp [value]

theorem value_digits (n : Nat) : value (digits n) = n := by
  fun_induction digits n with
  | case1 n h => simp only [value, List.foldl]; rw [digitChar_toNat h]; omega
  | case2 n h ih => rw [value_append, ih, digitChar_toNat (by omega)]; omega

end SqlResolution.Text.Decimal
