import Mathlib.Algebra.Order.Ring.Abs
import SqlResolution.Proofs.Time

/-!
# Milliseconds on the clock

A number of milliseconds is a number of seconds only nearly, and what is computed from it is
rounded once more at each step. So it is counted by how many parts of 128 of a millisecond an
instant may be off. As long as what is added up stays below 2^45 milliseconds, which is more
than a thousand years, a step of rounding adds no more than one such part; and instants that
are meant to be a millisecond apart are still in their order after sixty steps.
-/

namespace SqlResolution

open SqlResolution.Number

namespace Instant

variable {origin time other : Instant} {k l m n : Int} {length : Span}

/-- Some milliseconds after the origin, up to so many parts of 128 of one. -/
def IsAbout (origin : Instant) (parts ms : Int) (time : Instant) : Prop :=
  128 * |1000 * (time - origin) - ms * Span.second| ≤ parts * Span.second

/-- The origin itself leaves room for what is counted from it. -/
def IsModerate (origin : Instant) : Prop :=
  1000 * |origin| ≤ 2 ^ 45 * Span.second

theorem second_pos : (0 : Int) < Span.second := by
  decide +kernel

theorem isAbout_iff : IsAbout origin k m time ↔
    128 * (1000 * (time - origin) - m * Span.second) ≤ k * Span.second ∧
      128 * (m * Span.second - 1000 * (time - origin)) ≤ k * Span.second := by
  unfold IsAbout
  rcases abs_cases (1000 * (time - origin) - m * Span.second) with ⟨habs, hsign⟩ | ⟨habs, hsign⟩
  · rw [habs]
    exact ⟨fun h => ⟨h, by linarith⟩, fun h => h.1⟩
  · rw [habs]
    exact ⟨fun h => ⟨by linarith, by linarith⟩, fun h => by linarith [h.2]⟩

theorem isAbout_origin (origin : Instant) : IsAbout origin 0 0 origin := by
  rw [IsAbout, sub_self, mul_zero, zero_mul, sub_zero, abs_zero, mul_zero]

theorem IsAbout.mono (h : IsAbout origin k m time) (hle : k ≤ l) : IsAbout origin l m time :=
  h.trans (mul_le_mul_of_nonneg_right hle second_pos.le)

theorem IsAbout.add (htime : IsAbout origin k m time) (hlength : IsAbout 0 l n length) :
    IsAbout origin (k + l) (m + n) (time + length) := by
  rw [isAbout_iff] at htime hlength ⊢
  constructor <;> linarith [htime.1, htime.2, hlength.1, hlength.2]

theorem IsAbout.sub (htime : IsAbout origin k m time) (hother : IsAbout origin l n other) :
    IsAbout 0 (k + l) (m - n) (time - other) := by
  rw [isAbout_iff] at htime hother ⊢
  constructor <;> linarith [htime.1, htime.2, hother.1, hother.2]

theorem IsAbout.min (htime : IsAbout origin k m time) (hother : IsAbout origin k n other) :
    IsAbout origin k (min m n) (min time other) := by
  rw [isAbout_iff] at htime hother ⊢
  have hscale : ∀ {a b : Int}, a ≤ b → a * Span.second ≤ b * Span.second :=
    fun hle => mul_le_mul_of_nonneg_right hle second_pos.le
  rcases le_total m n with hmn | hnm <;> rcases le_total time other with hto | hot
  · rw [min_eq_left hmn, min_eq_left hto]
    exact htime
  · rw [min_eq_left hmn, min_eq_right hot]
    constructor <;> linarith [htime.1, htime.2, hother.1, hother.2, hscale hmn]
  · rw [min_eq_right hnm, min_eq_left hto]
    constructor <;> linarith [htime.1, htime.2, hother.1, hother.2, hscale hnm]
  · rw [min_eq_right hnm, min_eq_right hot]
    exact hother

/-- What is meant to be earlier is earlier, if both are off by less than a millisecond together. -/
theorem IsAbout.lt (htime : IsAbout origin k m time) (hother : IsAbout origin l n other)
    (hlt : m < n) (hoff : k + l < 128) : time < other := by
  rw [isAbout_iff] at htime hother
  have hapart : (m + 1) * Span.second ≤ n * Span.second :=
    mul_le_mul_of_nonneg_right hlt second_pos.le
  have hroom : (k + l) * Span.second < 128 * Span.second :=
    mul_lt_mul_of_pos_right hoff second_pos
  by_contra hle
  linarith [htime.1, hother.2, not_lt.1 hle]

/-! ## Steps of rounding -/

theorem IsAbout.size (h : IsAbout origin k m time) (horigin : origin.IsModerate)
    (hk : k ≤ 128) (hm : |m| < 2 ^ 45) : 1000 * |time| ≤ 2 ^ 46 * Span.second := by
  have hms : (|m| + 1) * Span.second ≤ 2 ^ 45 * Span.second :=
    mul_le_mul_of_nonneg_right hm second_pos.le
  have hoff : 128 * |1000 * (time - origin) - m * Span.second| ≤ 128 * Span.second :=
    h.trans (mul_le_mul_of_nonneg_right hk second_pos.le)
  have hsum : |1000 * time| ≤ |1000 * (time - origin) - m * Span.second| +
      |m * (Span.second : Int)| + |1000 * origin| := by
    have hsplit : 1000 * time =
        1000 * (time - origin) - m * Span.second + m * Span.second + 1000 * origin := by ring
    conv_lhs => rw [hsplit]
    exact (abs_add_le _ _).trans (add_le_add (abs_add_le _ _) (le_refl _))
  have hthousand : ∀ x : Int, |1000 * x| = 1000 * |x| := fun x => abs_mul 1000 x
  have hscaled : |m * (Span.second : Int)| = |m| * Span.second := by
    rw [abs_mul, abs_of_pos second_pos]
  rw [hthousand, hthousand, hscaled] at hsum
  have horigin : 1000 * |origin| ≤ 2 ^ 45 * Span.second := horigin
  linarith

/-- To round adds one part. -/
theorem IsAbout.rounded (h : IsAbout origin k m time) (horigin : origin.IsModerate)
    (hk : k ≤ 128) (hm : |m| < 2 ^ 45) :
    IsAbout origin (k + 1) m (Binary64.nearestUnits time) := by
  have herror := Binary64.nearestUnits_error time
  have hsize := h.size horigin hk hm
  rw [isAbout_iff] at h ⊢
  have hup := le_abs_self (Binary64.nearestUnits time - time)
  have hdown := neg_abs_le (Binary64.nearestUnits time - time)
  constructor <;> linarith [h.1, h.2]

theorem IsAbout.after (htime : IsAbout origin k m time) (hlength : IsAbout 0 l n length)
    (horigin : origin.IsModerate) (hoff : k + l ≤ 128) (hsum : |m + n| < 2 ^ 45) :
    IsAbout origin (k + l + 1) (m + n) (time.after length) :=
  (htime.add hlength).rounded horigin hoff hsum

theorem isModerate_zero : IsModerate 0 := by
  have hpos := second_pos
  rw [IsModerate, abs_zero]
  linarith

theorem IsAbout.since (htime : IsAbout origin k m time) (hother : IsAbout origin l n other)
    (hoff : k + l ≤ 128) (hdifference : |m - n| < 2 ^ 45) :
    IsAbout 0 (k + l + 1) (m - n) (time.since other) :=
  (htime.sub hother).rounded isModerate_zero hoff hdifference

theorem isAbout_resolution : IsAbout 0 1 0 Span.resolution := by
  unfold IsAbout
  decide +kernel

/-- What is meant to be later is not due yet. -/
theorem IsAbout.isDue_eq_false (htime : IsAbout origin k m time) (hother : IsAbout origin l n other)
    (horigin : origin.IsModerate) (hlt : m < n) (hoff : k + l < 126) (hk : k < 128)
    (hm : |m| < 2 ^ 45) : other.isDue time = false := by
  have hsoon := htime.after isAbout_resolution horigin (by omega) (by rwa [Int.add_zero])
  refine Bool.eq_false_iff.2 fun hdue => ?_
  rcases isDue_iff.1 hdue with hcome | hnear
  · exact absurd hcome (not_le.2 (htime.lt hother hlt (by omega)))
  · exact absurd hnear (not_lt.2 (le_of_lt (hsoon.lt hother (by omega) (by omega))))

end Instant

/-! ## Numbers of milliseconds -/

variable {ms : Int}

theorem second_eq : Span.second = 2 ^ 1074 := by
  decide +kernel

theorem units?_secondsOfMillis (hsmall : |ms| < 2 ^ 45) :
    ∃ units : Int, (secondsOfMillis ms).units? = some units ∧ Instant.IsAbout 0 1 ms units := by
  rw [Int.abs_eq_natAbs] at hsmall
  rcases eq_or_ne ms 0 with rfl | hne
  · exact ⟨0, by decide, (Instant.isAbout_origin 0).mono (by decide)⟩
  have hlength : Binary64.bitLength 1000 = 10 := by decide
  obtain ⟨units, hunits, hup, hdown⟩ := Binary64.units?_ofRatio (decide (ms < 0))
    (Int.natAbs_ne_zero.2 hne) (by decide : 0 < 1000) (by omega) (by omega)
  refine ⟨_, hunits, ?_⟩
  rw [← second_eq] at hup hdown
  rw [Instant.isAbout_iff]
  have hsize : ms.natAbs * Span.second ≤ 2 ^ 45 * Span.second :=
    Nat.mul_le_mul_right _ (by omega)
  have hsign : ms * Span.second =
      if ms < 0 then -((ms.natAbs * Span.second : Nat) : Int)
      else (ms.natAbs * Span.second : Nat) := by
    split
    · rw [Nat.cast_mul, ← Int.neg_mul, Int.ofNat_natAbs_of_nonpos (by omega), Int.neg_neg]
    · rw [Nat.cast_mul, Int.natAbs_of_nonneg (by omega)]
  rw [hsign]
  generalize ms.natAbs * Span.second = exact at *
  generalize Span.second = second at *
  have hover : 2 ^ 53 * (1000 * (units : Int) - exact) ≤ exact := by omega
  have hunder : 2 ^ 53 * ((exact : Int) - 1000 * units) ≤ exact := by omega
  have hroom : (exact : Int) ≤ 2 ^ 45 * second := by omega
  simp only [decide_eq_true_iff]
  by_cases hneg : ms < 0
  · rw [if_pos hneg, if_pos hneg]
    constructor <;> linarith
  · rw [if_neg hneg, if_neg hneg]
    constructor <;> linarith

theorem isAbout_ofMillis (hsmall : |ms| < 2 ^ 45) : Instant.IsAbout 0 1 ms (Span.ofMillis ms) := by
  obtain ⟨units, hunits, habout⟩ := units?_secondsOfMillis hsmall
  rw [Span.ofMillis, hunits]
  exact habout

namespace Timeout

theorem length_eq_units? {seconds : Binary64} {units : Int} (h : seconds.units? = some units) :
    (⟨seconds⟩ : Timeout).length = some units := by
  rw [length]
  split
  next hinfinite =>
    dsimp only at hinfinite
    rw [hinfinite] at h
    cases h
  next => exact h

theorem length_ofMillis (hsmall : |ms| < 2 ^ 45) :
    (ofMillis ms).length = some (Span.ofMillis ms) := by
  obtain ⟨units, hunits, -⟩ := units?_secondsOfMillis hsmall
  rw [Span.ofMillis, hunits]
  exact length_eq_units? hunits

/-- What is not above zero is over at once, however far below it is. -/
theorem length_ofMillis_of_nonpos (hms : ms ≤ 0) :
    ∃ length, (ofMillis ms).length = some length ∧ length ≤ 0 := by
  rcases eq_or_lt_of_le hms with rfl | hneg
  · exact ⟨0, by decide, Int.le_refl _⟩
  have hofMillis : ofMillis ms = ⟨.ofRatio true ms.natAbs 1000⟩ := by
    rw [ofMillis, secondsOfMillis, decide_eq_true hneg]
  rw [hofMillis]
  rcases Binary64.ofRatio_cases true ms.natAbs 1000 with ⟨significand, exponent, heq⟩ | heq
  · rw [heq]
    exact ⟨_, length_eq_units? (Binary64.units?_finite _ _ _), by simp⟩
  · rw [heq]
    exact ⟨0, rfl, Int.le_refl _⟩

theorem within_of_length {timeout : Timeout} {length : Span} (remaining : Option Span)
    (h : timeout.length = some length) :
    timeout.within remaining = some (remaining.elim length (min length)) := by
  obtain ⟨seconds⟩ := timeout
  unfold within
  rw [h]
  cases seconds with
  | notANumber => cases h
  | finite negative significand exponent => cases remaining <;> rfl
  | infinite negative => cases remaining <;> rfl

end Timeout

end SqlResolution
