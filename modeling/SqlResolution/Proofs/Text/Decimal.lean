import Mathlib.Algebra.Group.Nat.Defs
import Mathlib.Data.List.Induction
import SqlResolution.Text.Decimal
import SqlResolution.Text.Digit

/-!
# The form of decimal numerals

A written number has ASCII digits only, at least one, no leading zero unless it is
zero itself, and no more digits than its size asks for. These are the facts that
readers check before they read.
-/

namespace SqlResolution.Text.Decimal

theorem isAsciiDigit_digitChar {d : Nat} (h : d < 10) : isAsciiDigit (digitChar d) = true := by
  have : d = 0 ∨ d = 1 ∨ d = 2 ∨ d = 3 ∨ d = 4 ∨ d = 5 ∨ d = 6 ∨ d = 7 ∨ d = 8 ∨ d = 9 := by omega
  rcases this with rfl | rfl | rfl | rfl | rfl | rfl | rfl | rfl | rfl | rfl <;> rfl

theorem digitChar_ne_zero {d : Nat} (hpos : 0 < d) (h : d < 10) : digitChar d ≠ '0' := by
  intro hzero
  have hvalue := digitChar_toNat h
  rw [hzero] at hvalue
  exact absurd hvalue (by show ¬ 0 = d; omega)

theorem digits_ne_nil (n : Nat) : digits n ≠ [] := by
  rw [digits]
  split <;> simp

theorem isAsciiDigit_of_mem_digits {n : Nat} {c : Char} (h : c ∈ digits n) :
    isAsciiDigit c = true := by
  fun_induction digits n with
  | case1 n hlt =>
    rw [List.mem_singleton.1 h]
    exact isAsciiDigit_digitChar hlt
  | case2 n hge ih =>
    rcases List.mem_append.1 h with hearlier | hlast
    · exact ih hearlier
    · rw [List.mem_singleton.1 hlast]
      exact isAsciiDigit_digitChar (by omega)

theorem all_isAsciiDigit_digits (n : Nat) : (digits n).all isAsciiDigit = true :=
  List.all_eq_true.2 fun _ hc => isAsciiDigit_of_mem_digits hc

theorem ne_of_mem_digits {n : Nat} {c d : Char} (hd : isAsciiDigit d = false) (h : c ∈ digits n) :
    c ≠ d := by
  rintro rfl
  rw [isAsciiDigit_of_mem_digits h] at hd
  cases hd

theorem head?_digits {n : Nat} (hpos : 0 < n) : (digits n).head? ≠ some '0' := by
  fun_induction digits n with
  | case1 n hlt =>
    rw [List.head?_cons]
    exact fun h => digitChar_ne_zero hpos hlt (Option.some.inj h)
  | case2 n hge ih =>
    have hearlier := ih (by omega)
    cases hdigits : digits (n / 10) with
    | nil => exact absurd hdigits (digits_ne_nil _)
    | cons d ds => rwa [hdigits] at hearlier

theorem digits_zero : digits 0 = ['0'] := by
  rw [digits]
  rfl

theorem length_digits_le {n k : Nat} (hk : 0 < k) (h : n < 10 ^ k) : (digits n).length ≤ k := by
  fun_induction digits n generalizing k with
  | case1 n hlt => exact hk
  | case2 n hge ih =>
    obtain ⟨j, rfl⟩ : ∃ j, k = j + 1 := ⟨k - 1, by omega⟩
    have hj : 0 < j := by
      rcases Nat.eq_zero_or_pos j with rfl | hpos
      · exact absurd h (by omega)
      · exact hpos
    have hearlier := ih hj (by rw [Nat.pow_succ] at h; omega)
    rw [List.length_append, List.length_singleton]
    omega

theorem digitChar_of_isAsciiDigit {d : Char} (h : isAsciiDigit d = true) :
    d.toNat - '0'.toNat < 10 ∧ digitChar (d.toNat - '0'.toNat) = d := by
  rw [isAsciiDigit, Bool.and_eq_true, decide_eq_true_iff, decide_eq_true_iff] at h
  have hlow : '0'.toNat ≤ d.toNat := h.1
  have hhigh : d.toNat ≤ '9'.toNat := h.2
  have hnine : '9'.toNat = '0'.toNat + 9 := rfl
  refine ⟨by omega, ?_⟩
  rw [digitChar, Nat.add_sub_cancel' hlow, Char.ofNat_toNat]

/-- A numeral without needless zeros is what its value is written as. -/
theorem digits_value {ds : List Char} (hne : ds ≠ []) (hdigits : ∀ d ∈ ds, isAsciiDigit d = true)
    (hzero : ds = ['0'] ∨ ds.head? ≠ some '0') : digits (value ds) = ds := by
  -- The last digit is written last.
  induction ds using List.reverseRecOn with
  | nil => exact absurd rfl hne
  | append_singleton earlier d ih =>
    obtain ⟨hlt, hd⟩ := digitChar_of_isAsciiDigit (hdigits d (by simp))
    rw [value_append]
    cases earlier with
    | nil =>
      show digits (10 * 0 + (d.toNat - '0'.toNat)) = [d]
      rw [Nat.mul_zero, Nat.zero_add, digits, if_pos hlt, hd]
    | cons first rest =>
      have hfirst : first ≠ '0' := by simpa using hzero
      have hearlier := ih (List.cons_ne_nil _ _)
        (fun c hc => hdigits c (List.mem_append_left _ hc)) (.inr (by simpa using hfirst))
      have hpositive : value (first :: rest) ≠ 0 := by
        intro hvalue
        rw [hvalue, digits_zero] at hearlier
        exact hfirst (List.cons.inj hearlier).1.symm
      generalize value (first :: rest) = front at hearlier hpositive
      have hfront : (10 * front + (d.toNat - '0'.toNat)) / 10 = front := by omega
      have hback : (10 * front + (d.toNat - '0'.toNat)) % 10 = d.toNat - '0'.toNat := by omega
      rw [digits, if_neg (by omega), hfront, hearlier, hback, hd]

end SqlResolution.Text.Decimal
