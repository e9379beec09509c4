import SqlResolution.Proofs.Number.Nearest
import SqlResolution.Time

/-!
# The order of instants

A sum of an instant and a length of time is rounded, but the rounding keeps the order: who
starts later, or takes longer, does not end earlier. So what is due at an instant is due at
every later one.
-/

namespace SqlResolution

open SqlResolution.Number

namespace Instant

variable {time now later : Instant} {length longer : Span}

theorem after_mono (hnow : now ≤ later) (hlength : length ≤ longer) :
    now.after length ≤ later.after longer :=
  Binary64.nearestUnits_mono (Int.add_le_add hnow hlength)

theorem isDue_iff : time.isDue now = true ↔ time ≤ now ∨ time < now.after Span.resolution := by
  simp [isDue]

theorem isDue_of_le (h : time ≤ now) : time.isDue now = true :=
  isDue_iff.2 (.inl h)

theorem isDue_mono (h : time.isDue now = true) (hle : now ≤ later) : time.isDue later = true := by
  rcases isDue_iff.1 h with hcome | hsoon
  · exact isDue_of_le (Int.le_trans hcome hle)
  · exact isDue_iff.2 (.inr (Int.lt_of_lt_of_le hsoon (after_mono hle (Int.le_refl _))))

end Instant

/-- A timeout that is a number can be compared with what remains of another. -/
def Timeout.IsNumber (timeout : Timeout) : Prop :=
  timeout.seconds ≠ .notANumber

instance (timeout : Timeout) : Decidable timeout.IsNumber :=
  inferInstanceAs (Decidable (_ ≠ _))

end SqlResolution
