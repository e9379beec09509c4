import SqlResolution.Proofs.Time
import SqlResolution.Proofs.Timeline.Sound

/-!
# The clock of a timeline

The clock moves for one reason only: what is waited for is not due yet. Then it moves to just
that instant. So it never goes back, never beyond what was waited for, and it stands still
while all that is due comes in.
-/

namespace SqlResolution

namespace Timeline

variable {t : Timeline} {time limit : Instant} {delivery : Delivery}

theorem now_networkAt_of_le {time : Instant} (h : time ≤ t.now) :
    (t.networkAt time).now = t.now := by
  rw [networkAt_eq]
  exact if_neg (Int.not_lt.2 h)

theorem now_networkAt (t : Timeline) (time : Instant) :
    (t.networkAt time).now = max t.now time := by
  rw [networkAt_eq]
  exact (max_def_lt t.now time).symm

theorem instantOf_of_due {time : Instant} (h : time.isDue t.now = true) :
    t.instantOf time = t.now :=
  if_pos h

theorem now_deliver_of_due {delivery : Delivery} (h : delivery.time.isDue t.now = true) :
    (t.deliver delivery).now = t.now := by
  rw [deliver_eq, now_arrive, instantOf_of_due h, now_networkAt_of_le (Int.le_refl _)]

theorem now_cancelled (t : Timeline) (time : Instant) :
    (t.cancelled time).now = max t.now time := by
  rw [cancelled_eq]
  exact (max_def_lt t.now time).symm

/-- What is waited for is due when the wait is over. -/
theorem isDue_instantOf (t : Timeline) (time : Instant) :
    time.isDue (t.networkAt (t.instantOf time)).now = true := by
  rw [now_networkAt, instantOf]
  split
  next hdue => exact Instant.isDue_mono hdue (le_max_left _ _)
  next => exact Instant.isDue_of_le (le_max_right _ _)

theorem now_instantOf_le (hnow : t.now ≤ limit) (htime : time ≤ limit) :
    (t.networkAt (t.instantOf time)).now ≤ limit := by
  rw [now_networkAt, instantOf]
  split
  · exact max_le hnow hnow
  · exact max_le hnow htime

/-- The clock stays where it is, or it moves to just what is waited for. -/
theorem now_instantOf_eq (t : Timeline) (time : Instant) :
    (t.networkAt (t.instantOf time)).now = t.now ∨ (t.networkAt (t.instantOf time)).now = time := by
  rw [now_networkAt, instantOf]
  split
  · exact .inl (max_self _)
  · exact max_choice _ _

theorem now_deliver (t : Timeline) (delivery : Delivery) :
    (t.deliver delivery).now = (t.networkAt (t.instantOf delivery.time)).now :=
  now_arrive _ _

theorem now_foldl_deliver_le (deliveries : List Delivery) (hnow : t.now ≤ limit)
    (htime : ∀ delivery ∈ deliveries, delivery.time ≤ limit) :
    (deliveries.foldl deliver t).now ≤ limit := by
  induction deliveries generalizing t with
  | nil => exact hnow
  | cons delivery rest ih =>
    refine ih ?_ fun other hmem => htime other (List.mem_cons_of_mem _ hmem)
    rw [now_deliver]
    exact now_instantOf_le hnow (htime delivery List.mem_cons_self)

theorem now_foldl_deliver_eq (deliveries : List Delivery) (t : Timeline) :
    (deliveries.foldl deliver t).now = t.now ∨
      ∃ delivery ∈ deliveries, delivery.time = (deliveries.foldl deliver t).now := by
  induction deliveries generalizing t with
  | nil => exact .inl rfl
  | cons delivery rest ih =>
    rcases ih (t.deliver delivery) with hfirst | ⟨other, hmem, htime⟩
    · rw [List.foldl_cons, hfirst, now_deliver]
      exact (now_instantOf_eq t delivery.time).imp_right fun h =>
        ⟨delivery, List.mem_cons_self, h.symm⟩
    · exact .inr ⟨other, List.mem_cons_of_mem _ hmem, htime⟩

theorem now_deliverDue (agenda : List Delivery) (t : Timeline) :
    (t.deliverDue agenda).now = t.now := by
  induction agenda generalizing t with
  | nil => rfl
  | cons delivery rest ih =>
    rw [deliverDue]
    split
    next hdue => rw [ih, now_deliver_of_due hdue]
    next => rfl

theorem now_resume (agenda : List Delivery) (t : Timeline) : (t.resume agenda).now = t.now :=
  now_deliverDue agenda t

end Timeline

end SqlResolution
