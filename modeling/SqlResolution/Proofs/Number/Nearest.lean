import Mathlib.Algebra.Order.Group.Unbundled.Int
import Mathlib.Tactic.Linarith
import Mathlib.Tactic.Ring
import SqlResolution.Number.Binary64

/-!
# The nearest number of 53 binary digits

Rounding to so many binary digits keeps the order, and is off by no more than one part in 2^53.
Both come from the same picture: between two neighbouring powers of two the short numbers are
the multiples of one unit, and a power of two is a short number on both sides.
-/

namespace SqlResolution.Number

/-! ## Quotients -/

variable {n m d : Nat}

theorem two_mul_le_roundDiv (n : Nat) (hd : 0 < d) : 2 * n ≤ (2 * roundDiv n d + 1) * d := by
  have hdiv := Nat.div_add_mod n d
  have hmod := Nat.mod_lt n hd
  unfold roundDiv
  dsimp only
  split
  · have hring : (2 * (n / d + 1) + 1) * d = 2 * (d * (n / d)) + 3 * d := by ring
    omega
  · next hdown =>
    simp only [Bool.or_eq_true, decide_eq_true_eq, not_or] at hdown
    have hring : (2 * (n / d) + 1) * d = 2 * (d * (n / d)) + d := by ring
    omega

theorem two_mul_roundDiv_le (n : Nat) (hd : 0 < d) : 2 * (roundDiv n d * d) ≤ 2 * n + d := by
  have hdiv := Nat.div_add_mod n d
  unfold roundDiv
  dsimp only
  split
  · next hup =>
    have hring : (n / d + 1) * d = d * (n / d) + d := by ring
    simp only [Bool.or_eq_true, Bool.and_eq_true, decide_eq_true_eq] at hup
    omega
  · have hring : n / d * d = d * (n / d) := by ring
    omega

theorem roundDiv_mono (h : n ≤ m) : roundDiv n d ≤ roundDiv m d := by
  have hquotient : n / d ≤ m / d := Nat.div_le_div_right h
  have hn := Nat.div_add_mod n d
  have hm := Nat.div_add_mod m d
  unfold roundDiv
  dsimp only
  by_cases hsame : n / d = m / d
  · rw [hsame] at hn ⊢
    have hrest : n % d ≤ m % d := by omega
    split
    · next hup =>
      rw [if_pos]
      simp only [Bool.or_eq_true, Bool.and_eq_true, decide_eq_true_eq] at hup ⊢
      omega
    · split <;> omega
  · split <;> split <;> omega

namespace Binary64

/-! ## Digits -/

variable {digits : Nat}

theorem bitLength_le_iff {k : Nat} : bitLength n ≤ k ↔ n < 2 ^ k := by
  unfold bitLength
  split
  next hzero => simp [hzero]
  next hpos => exact Nat.add_one_le_iff.trans (Nat.log2_lt hpos)

theorem lt_two_pow_bitLength (n : Nat) : n < 2 ^ bitLength n :=
  bitLength_le_iff.1 (Nat.le_refl _)

theorem two_pow_le {k : Nat} (h : k < bitLength n) : 2 ^ k ≤ n := by
  by_contra hlt
  exact absurd (bitLength_le_iff.2 (Nat.not_le.1 hlt)) (Nat.not_le.2 h)

theorem roundDigits_eq (digits n : Nat) :
    roundDigits digits n =
      roundDiv n (2 ^ (bitLength n - digits)) * 2 ^ (bitLength n - digits) := rfl

/-- Rounded, a number takes no more units than there are digits for. -/
theorem roundDiv_unit_le (digits n : Nat) :
    roundDiv n (2 ^ (bitLength n - digits)) ≤ 2 ^ digits := by
  have hlt := lt_two_pow_bitLength n
  have hpow : 2 ^ bitLength n ≤ 2 ^ digits * 2 ^ (bitLength n - digits) := by
    rw [← Nat.pow_add]
    exact Nat.pow_le_pow_right (by decide) (by omega)
  calc roundDiv n (2 ^ (bitLength n - digits))
      ≤ roundDiv (2 ^ digits * 2 ^ (bitLength n - digits)) (2 ^ (bitLength n - digits)) :=
        roundDiv_mono (by omega)
    _ = 2 ^ digits := roundDiv_mul_right _ _ (Nat.two_pow_pos _)

theorem roundDigits_le_two_pow (digits n : Nat) : roundDigits digits n ≤ 2 ^ bitLength n := by
  by_cases hshort : bitLength n ≤ digits
  · rw [roundDigits_of_bitLength_le hshort]
    exact Nat.le_of_lt (lt_two_pow_bitLength n)
  · have hpow : 2 ^ digits * 2 ^ (bitLength n - digits) = 2 ^ bitLength n := by
      rw [← Nat.pow_add]
      congr 1
      omega
    rw [roundDigits_eq, ← hpow]
    exact Nat.mul_le_mul_right _ (roundDiv_unit_le digits n)

theorem two_pow_le_roundDigits {k : Nat} (hdigits : 0 < digits) (h : k < bitLength n) :
    2 ^ k ≤ roundDigits digits n := by
  by_cases hshort : bitLength n ≤ digits
  · rw [roundDigits_of_bitLength_le hshort]
    exact two_pow_le h
  · have hpow : 2 ^ (digits - 1) * 2 ^ (bitLength n - digits) = 2 ^ (bitLength n - 1) := by
      rw [← Nat.pow_add]
      congr 1
      omega
    have hle : 2 ^ (bitLength n - 1) ≤ n := two_pow_le (by omega)
    have hunits : 2 ^ (digits - 1) ≤ roundDiv n (2 ^ (bitLength n - digits)) := by
      rw [← roundDiv_mul_right (2 ^ (digits - 1)) _ (Nat.two_pow_pos (bitLength n - digits)), hpow]
      exact roundDiv_mono hle
    calc 2 ^ k ≤ 2 ^ (bitLength n - 1) := Nat.pow_le_pow_right (by decide) (by omega)
      _ = 2 ^ (digits - 1) * 2 ^ (bitLength n - digits) := hpow.symm
      _ ≤ roundDigits digits n := Nat.mul_le_mul_right _ hunits

theorem roundDigits_mono (hdigits : 0 < digits) (h : n ≤ m) :
    roundDigits digits n ≤ roundDigits digits m := by
  have hlength : bitLength n ≤ bitLength m :=
    bitLength_le_iff.2 (Nat.lt_of_le_of_lt h (lt_two_pow_bitLength m))
  rcases Nat.lt_or_eq_of_le hlength with hlt | heq
  · exact (roundDigits_le_two_pow digits n).trans (two_pow_le_roundDigits hdigits hlt)
  · rw [roundDigits_eq, roundDigits_eq, heq]
    exact Nat.mul_le_mul_right _ (roundDiv_mono h)

/-- The error is at most half a unit, and a number that is rounded at all has many units. -/
theorem roundDigits_error (digits n : Nat) :
    2 ^ digits * (roundDigits digits n - n) ≤ n ∧ 2 ^ digits * (n - roundDigits digits n) ≤ n := by
  by_cases hshort : bitLength n ≤ digits
  · rw [roundDigits_of_bitLength_le hshort]
    simp
  · have hunit := Nat.two_pow_pos (bitLength n - digits)
    have hup := two_mul_roundDiv_le n hunit
    have hdown := two_mul_le_roundDiv n hunit
    rw [roundDigits_eq]
    generalize hrounded : roundDiv n (2 ^ (bitLength n - digits)) = units at hup hdown
    generalize hu : 2 ^ (bitLength n - digits) = unit at hup hdown
    have hmany : 2 ^ digits * unit ≤ 2 * n := by
      have hle : 2 ^ (bitLength n - 1) ≤ n := two_pow_le (by omega)
      have hpow : 2 ^ digits * 2 ^ (bitLength n - digits) = 2 * 2 ^ (bitLength n - 1) := by
        rw [← Nat.pow_add, ← Nat.pow_succ']
        congr 1
        omega
      rw [← hu, hpow]
      omega
    have hring : (2 * units + 1) * unit = 2 * (units * unit) + unit := by ring
    constructor
    · have herror : 2 * (units * unit - n) ≤ unit := by omega
      have := Nat.mul_le_mul_left (2 ^ digits) herror
      linarith [Nat.mul_left_comm (2 ^ digits) 2 (units * unit - n)]
    · have herror : 2 * (n - units * unit) ≤ unit := by omega
      have := Nat.mul_le_mul_left (2 ^ digits) herror
      linarith [Nat.mul_left_comm (2 ^ digits) 2 (n - units * unit)]

/-! ## Numbers with a sign -/

variable {a b : Int}

theorem nearestUnits_natCast (n : Nat) : nearestUnits n = roundDigits 53 n := by
  unfold nearestUnits
  rw [if_neg (by omega), Int.natAbs_natCast]

theorem nearestUnits_neg (a : Int) : nearestUnits (-a) = -nearestUnits a := by
  unfold nearestUnits
  rw [Int.natAbs_neg]
  by_cases hzero : a = 0
  · rw [hzero]
    decide
  · split <;> split <;> omega

theorem nearestUnits_of_nonneg (h : 0 ≤ a) : nearestUnits a = roundDigits 53 a.toNat := by
  conv_lhs => rw [← Int.toNat_of_nonneg h]
  exact nearestUnits_natCast _

theorem nearestUnits_nonneg (h : 0 ≤ a) : 0 ≤ nearestUnits a := by
  rw [nearestUnits_of_nonneg h]
  exact Int.natCast_nonneg _

theorem nearestUnits_mono (h : a ≤ b) : nearestUnits a ≤ nearestUnits b := by
  have hnonneg : ∀ {x y : Int}, 0 ≤ x → x ≤ y → nearestUnits x ≤ nearestUnits y := by
    intro x y hx hxy
    rw [nearestUnits_of_nonneg hx, nearestUnits_of_nonneg (hx.trans hxy)]
    exact Int.ofNat_le.2 (roundDigits_mono (by decide) (by omega))
  by_cases ha : 0 ≤ a
  · exact hnonneg ha h
  by_cases hb : 0 ≤ b
  · have hneg := nearestUnits_nonneg (a := -a) (by omega)
    rw [nearestUnits_neg] at hneg
    have hpos := nearestUnits_nonneg hb
    omega
  · have hflip := hnonneg (x := -b) (y := -a) (by omega) (by omega)
    rw [nearestUnits_neg, nearestUnits_neg] at hflip
    omega

/-- Off by one part in 2^53 at most. -/
theorem nearestUnits_error (a : Int) : 2 ^ 53 * |nearestUnits a - a| ≤ |a| := by
  have hnonneg : ∀ n : Nat, 2 ^ 53 * |nearestUnits n - n| ≤ (n : Int) := by
    intro n
    obtain ⟨hup, hdown⟩ := roundDigits_error 53 n
    rw [nearestUnits_natCast]
    by_cases hle : n ≤ roundDigits 53 n
    · rw [abs_of_nonneg (by omega)]
      omega
    · rw [abs_of_nonpos (by omega)]
      omega
  by_cases ha : 0 ≤ a
  · obtain ⟨n, rfl⟩ := Int.eq_ofNat_of_zero_le ha
    rw [abs_of_nonneg ha]
    exact hnonneg n
  · obtain ⟨n, hn⟩ := Int.eq_ofNat_of_zero_le (a := -a) (by omega)
    have herror := hnonneg n
    rw [← hn, nearestUnits_neg, ← neg_sub', abs_neg] at herror
    rwa [abs_of_nonpos (by omega : a ≤ 0)]

/-! ## Ratios -/

/-- No more than the quotient: both sides of `2 ^ k ≤ num / den`, made whole. -/
theorem floorLog2_le {num : Nat} (den : Nat) (hnum : num ≠ 0) (k : Nat)
    (hk : 0 ≤ floorLog2 num den + k) : den * 2 ^ (floorLog2 num den + k).toNat ≤ num * 2 ^ k := by
  have hnumpos : 0 < bitLength num := by
    rw [bitLength, if_neg hnum]
    exact Nat.succ_pos _
  have hlow : 2 ^ (bitLength num - 1) ≤ num := two_pow_le (Nat.sub_lt hnumpos Nat.one_pos)
  have hhigh : den ≤ 2 ^ bitLength den := Nat.le_of_lt (lt_two_pow_bitLength den)
  have hrough : ∀ e : Nat,
      bitLength den + e ≤ bitLength num - 1 + k → den * 2 ^ e ≤ num * 2 ^ k := by
    intro e he
    calc den * 2 ^ e ≤ 2 ^ (bitLength den + e) := by
          rw [Nat.pow_add]
          exact Nat.mul_le_mul_right _ hhigh
      _ ≤ 2 ^ (bitLength num - 1 + k) := Nat.pow_le_pow_right (by decide) he
      _ ≤ num * 2 ^ k := by
          rw [Nat.pow_add]
          exact Nat.mul_le_mul_right _ hlow
  unfold floorLog2 at hk ⊢
  dsimp only at hk ⊢
  split at hk
  next hguess =>
    rw [if_pos hguess]
    dsimp only at hk ⊢
    split at hk
    next hless =>
      rw [if_pos hless]
      exact hrough _ (by omega)
    next hmore =>
      rw [if_neg hmore]
      have hexponent : ((bitLength num : Int) - bitLength den + k).toNat =
          ((bitLength num : Int) - bitLength den).toNat + k := by omega
      rw [hexponent, Nat.pow_add, ← Nat.mul_assoc]
      exact Nat.mul_le_mul_right _ (Nat.not_lt.1 hmore)
  next hguess =>
    rw [if_neg hguess]
    dsimp only at hk ⊢
    split at hk
    next hless =>
      rw [if_pos hless]
      exact hrough _ (by omega)
    next hmore =>
      rw [if_neg hmore]
      have hexponent : k = (-((bitLength num : Int) - bitLength den)).toNat +
          ((bitLength num : Int) - bitLength den + k).toNat := by omega
      conv_rhs => rw [hexponent, Nat.pow_add, ← Nat.mul_assoc]
      exact Nat.mul_le_mul_right _ (Nat.not_lt.1 hmore)

theorem le_floorLog2 (num den : Nat) :
    (bitLength num : Int) - bitLength den - 1 ≤ floorLog2 num den := by
  unfold floorLog2
  dsimp only
  split <;> dsimp only <;> split <;> omega

/-- A ratio keeps its sign, and is a number even if it is too large. -/
theorem ofRatio_cases (negative : Bool) (num den : Nat) :
    (∃ significand exponent, ofRatio negative num den = finite negative significand exponent) ∨
      ofRatio negative num den = infinite negative := by
  have hcases : ∀ rounded : Nat × Int, ∀ number : Binary64,
      number = (if 971 < rounded.2 then infinite negative
        else finite negative rounded.1 rounded.2) →
      (∃ significand exponent, number = finite negative significand exponent) ∨
        number = infinite negative := by
    rintro rounded _ rfl
    split
    · exact .inr rfl
    · exact .inl ⟨_, _, rfl⟩
  rw [ofRatio]
  split
  · exact .inl ⟨_, _, rfl⟩
  · exact hcases _ _ rfl

theorem units?_finite (negative : Bool) (significand : Nat) (exponent : Int) :
    (finite negative significand exponent).units? =
      some (if negative then -((significand * 2 ^ (exponent + 1074).toNat : Nat) : Int)
        else (significand * 2 ^ (exponent + 1074).toNat : Nat)) := by
  simp [units?]

/-- In the range of full precision and below 2^52, a ratio is rounded to whole units of the last of
its 53 digits. -/
theorem units?_ofRatio_eq {num : Nat} {floor : Int} (negative : Bool) (den : Nat) (hnum : num ≠ 0)
    (hfloor : floorLog2 num den = floor) (hleast : -1022 ≤ floor) (hmost : floor < 52) :
    (ofRatio negative num den).units? =
      let units := roundDiv (num * 2 ^ (52 - floor).toNat) den * 2 ^ (floor + 1022).toNat
      some (if negative then -(units : Int) else units) := by
  have hexponent : max (floor - 52) (-1074) = floor - 52 := by omega
  have hdown : (-(floor - 52)).toNat = (52 - floor).toNat := by omega
  rw [ofRatio, if_neg hnum]
  dsimp only
  rw [hfloor, hexponent, if_neg (by omega : ¬0 ≤ floor - 52), hdown]
  show (if 971 < _ then _ else _ : Binary64).units? = _
  split
  next hcarry =>
    have hcarry : roundDiv (num * 2 ^ (52 - floor).toNat) den = 2 ^ 53 := hcarry
    have hshift : (floor - 52 + 1 + 1074).toNat = (floor + 1022).toNat + 1 := by omega
    have hsame : Nat.pow 2 52 * 2 ^ ((floor + 1022).toNat + 1) =
        2 ^ 53 * 2 ^ (floor + 1022).toNat := by
      show 2 ^ 52 * 2 ^ ((floor + 1022).toNat + 1) = _
      rw [Nat.pow_succ]
      omega
    dsimp only
    rw [if_neg (by omega), units?_finite, hshift, hcarry, hsame]
  next =>
    have hshift : (floor - 52 + 1074).toNat = (floor + 1022).toNat := by omega
    dsimp only
    rw [if_neg (by omega), units?_finite, hshift]
    rfl

/-- Such a ratio is off by one part in 2^53 at most. -/
theorem units?_ofRatio {num den : Nat} (negative : Bool) (hnum : num ≠ 0) (hden : 0 < den)
    (hlow : bitLength den ≤ bitLength num + 1000) (hhigh : num ≤ den * 2 ^ 50) :
    ∃ units : Nat,
      (ofRatio negative num den).units? = some (if negative then -(units : Int) else units) ∧
      2 ^ 53 * (den * units - num * 2 ^ 1074) ≤ num * 2 ^ 1074 ∧
      2 ^ 53 * (num * 2 ^ 1074 - den * units) ≤ num * 2 ^ 1074 := by
  have hleast := le_floorLog2 num den
  have hmost : floorLog2 num den ≤ 50 := by
    by_contra hlarge
    have hle := floorLog2_le den hnum 0 (by omega)
    have hpow : den * 2 ^ 51 ≤ den * 2 ^ (floorLog2 num den + (0 : Nat)).toNat :=
      Nat.mul_le_mul_left _ (Nat.pow_le_pow_right (by decide) (by omega))
    omega
  have hunit := floorLog2_le den hnum 1074 (by omega)
  have hunits := units?_ofRatio_eq negative den hnum rfl (by omega) (by omega)
  generalize floorLog2 num den = floor at hleast hmost hunit hunits
  refine ⟨_, hunits, ?_⟩
  have hcut : (floor + (1074 : Nat)).toNat = 52 + (floor + 1022).toNat := by omega
  have hwhole : num * 2 ^ 1074 = num * 2 ^ (52 - floor).toNat * 2 ^ (floor + 1022).toNat := by
    rw [Nat.mul_assoc, ← Nat.pow_add,
      show (52 - floor).toNat + (floor + 1022).toNat = 1074 by omega]
  rw [hcut, Nat.pow_add, hwhole, Nat.mul_left_comm] at hunit
  rw [hwhole]
  have hup := Nat.mul_le_mul_right (2 ^ (floor + 1022).toNat)
    (two_mul_roundDiv_le (num * 2 ^ (52 - floor).toNat) hden)
  have hdown := Nat.mul_le_mul_right (2 ^ (floor + 1022).toNat)
    (two_mul_le_roundDiv (num * 2 ^ (52 - floor).toNat) hden)
  generalize roundDiv (num * 2 ^ (52 - floor).toNat) den = significand at hup hdown ⊢
  generalize num * 2 ^ (52 - floor).toNat = n at hup hdown hunit ⊢
  generalize 2 ^ (floor + 1022).toNat = unit at hup hdown hunit ⊢
  rw [show 2 * (significand * den) * unit = 2 * (den * (significand * unit)) by ring,
    show (2 * n + den) * unit = 2 * (n * unit) + den * unit by ring] at hup
  rw [show 2 * n * unit = 2 * (n * unit) by ring,
    show (2 * significand + 1) * den * unit = 2 * (den * (significand * unit)) + den * unit by ring]
    at hdown
  omega

end Binary64

end SqlResolution.Number
