import SqlResolution.Request
import SqlResolution.Text.LowerCase

/-!
# The lower case of ASCII texts

In ASCII only the letters have case, and each character has a small form of its own, whatever its
neighbours are.
-/

namespace SqlResolution.Text

open Request (isAscii)

theorem lowerChar_of_isAscii {c : Char} (h : isAscii c = true) : lowerChar c = [c.toLower] := by
  have hall : ∀ n : Fin 128, lowerChar (Char.ofNat n) = [(Char.ofNat n).toLower] := by
    decide +kernel
  have hc := hall ⟨c.toNat, of_decide_eq_true h⟩
  rwa [Char.ofNat_toNat] at hc

theorem lowerFrom_of_isAscii {cs : List Char} (h : ∀ c ∈ cs, isAscii c = true)
    (before : List Char) : lowerFrom before cs = cs.map Char.toLower := by
  induction cs generalizing before with
  | nil => rfl
  | cons c rest ih =>
    have hc := h c List.mem_cons_self
    have hlt : c.toNat < 128 := of_decide_eq_true hc
    rw [lowerFrom, if_neg (by omega), lowerChar_of_isAscii hc,
      ih fun d hd => h d (List.mem_cons_of_mem _ hd)]
    rfl

/-- The names that differ in the case of letters only are those with one lower case. -/
theorem lower_of_isAscii {text : String} (h : ∀ c ∈ text.toList, isAscii c = true) :
    lower text = String.ofList (text.toList.map Char.toLower) := by
  rw [lower, lowerFrom_of_isAscii h]

end SqlResolution.Text
