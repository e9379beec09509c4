import SqlResolution.Browse

/-!
# Moving a cursor to its end

A browse can be collected at once, or a fresh cursor can be moved until it stops. The one
drains all answers; the other fetches an answer that holds something, hands its instances
out one by one, and fetches again. Both read the same answers in the same order and come to
the same end.

A cursor that is moved comes closer to its end: either less is still to come, or, as long
as the instances of one answer are handed out, fewer of them are left.
-/

namespace SqlResolution

/-- How many instances of the last answer a cursor still has. -/
def Cursor.left : Cursor → Nat
  | .running _ instances => instances.length
  | _ => 0

namespace Browse

variable {browse after : Browse} {endsAt : Option Instant}

/-! ## Taking one answer -/

section Advancing

variable {taken : Timeline}

theorem advance_of_error {failure : Failure}
    (h : browse.timeline.awaitNext browse.limits endsAt = (.error failure, taken)) :
    (browse.advance endsAt).1 = .error failure := by
  rw [advance, h]
  cases failure <;> rfl

theorem advance_of_transport {fault : TransportFault}
    (h : browse.timeline.awaitNext browse.limits endsAt = (.error (.transport fault), taken)) :
    browse.advance endsAt =
      (.error (.transport fault), { browse with timeline := taken }.abandon) := by
  rw [advance, h]

theorem advance_of_none
    (h : browse.timeline.awaitNext browse.limits endsAt = (.ok none, taken)) :
    browse.advance endsAt = (.ok none, { browse with timeline := taken }.conclude) := by
  rw [advance, h]

theorem advance_of_some {answer : Datagram}
    (h : browse.timeline.awaitNext browse.limits endsAt = (.ok (some answer), taken)) :
    browse.advance endsAt =
      (({ browse with timeline := taken }.readAnswer answer).1.map some,
        ({ browse with timeline := taken }.readAnswer answer).2) := by
  rw [advance, h]

end Advancing

/-! ## Fetching and draining -/

theorem fetch_of_error {failure : Failure} (h : browse.advance endsAt = (.error failure, after)) :
    browse.fetch endsAt = (.error failure, .done, after) := by
  rw [fetch]
  split <;> simp_all

theorem fetch_of_none (h : browse.advance endsAt = (.ok none, after)) :
    browse.fetch endsAt = (.ok none, .done, after) := by
  rw [fetch]
  split <;> simp_all

theorem fetch_of_nil (h : browse.advance endsAt = (.ok (some []), after)) :
    browse.fetch endsAt = after.fetch endsAt := by
  rw [fetch]
  split <;> simp_all

theorem fetch_of_cons {found : Instance} {later : List Instance}
    (h : browse.advance endsAt = (.ok (some (found :: later)), after)) :
    browse.fetch endsAt = (.ok (some found), .running endsAt later, after.handOut 1) := by
  rw [fetch]
  split <;> simp_all

theorem drain_of_error {failure : Failure} (h : browse.advance endsAt = (.error failure, after)) :
    browse.drain endsAt = ⟨[], some failure, after⟩ := by
  rw [drain]
  split <;> simp_all

theorem drain_of_none (h : browse.advance endsAt = (.ok none, after)) :
    browse.drain endsAt = ⟨[], none, after⟩ := by
  rw [drain]
  split <;> simp_all

theorem drain_of_some {instances : List Instance}
    (h : browse.advance endsAt = (.ok (some instances), after)) :
    browse.drain endsAt =
      { (after.handOut instances.length).drain endsAt with
        instances := instances ++ ((after.handOut instances.length).drain endsAt).instances } := by
  rw [drain]
  split <;> simp_all

theorem pending_fetch_of_some {found : Instance} {moved : Cursor}
    (h : browse.fetch endsAt = (.ok (some found), moved, after)) :
    after.timeline.pending < browse.timeline.pending := by
  fun_induction fetch endsAt browse with
  | case1 => cases h
  | case2 => cases h
  | case3 browse rest hadvance hpending ih => exact Nat.lt_trans (ih h) hpending
  | case4 browse first later rest hadvance =>
    cases h
    rw [pending_handOut]
    exact pending_advance_of_some hadvance

theorem next_running_nil (browse : Browse) (endsAt : Option Instant) :
    browse.next (.running endsAt []) = browse.fetch endsAt := rfl

theorem pending_begin (browse : Browse) :
    browse.begin.2.timeline.pending = browse.timeline.pending := by
  rw [begin]
  split
  · rfl
  · split <;> rfl

/-- A cursor that is moved comes closer to its end. -/
theorem closer_next {cursor moved : Cursor} {found : Instance}
    (h : browse.next cursor = (.ok (some found), moved, after)) :
    Prod.Lex (· < ·) (· < ·) (after.timeline.pending, moved.left)
      (browse.timeline.pending, cursor.left) := by
  unfold next at h
  split at h
  next => cases h
  next endsAt first later =>
    cases h
    exact .right _ (Nat.lt_succ_self _)
  next endsAt => exact .left _ _ (pending_fetch_of_some h)
  next =>
    have hbegin := pending_begin browse
    split at h
    next => cases h
    next endsAt begun heq =>
      rw [heq] at hbegin
      rw [← hbegin]
      exact .left _ _ (pending_fetch_of_some h)

/-! ## To the end -/

/-- Moves a cursor until it stops. -/
def exhaust (cursor : Cursor) (browse : Browse) : Browsed :=
  match h : browse.next cursor with
  | (.error failure, _, after) => ⟨[], some failure, after⟩
  | (.ok none, _, after) => ⟨[], none, after⟩
  | (.ok (some found), moved, after) =>
    have := closer_next h
    let rest := exhaust moved after
    { rest with instances := found :: rest.instances }
termination_by (browse.timeline.pending, cursor.left)
decreasing_by exact this

section Exhausting

variable {cursor moved : Cursor}

theorem exhaust_of_error {failure : Failure}
    (h : browse.next cursor = (.error failure, moved, after)) :
    exhaust cursor browse = ⟨[], some failure, after⟩ := by
  rw [exhaust]
  split <;> simp_all

theorem exhaust_of_none (h : browse.next cursor = (.ok none, moved, after)) :
    exhaust cursor browse = ⟨[], none, after⟩ := by
  rw [exhaust]
  split <;> simp_all

theorem exhaust_of_some {found : Instance}
    (h : browse.next cursor = (.ok (some found), moved, after)) :
    exhaust cursor browse =
      { exhaust moved after with instances := found :: (exhaust moved after).instances } := by
  rw [exhaust]
  split <;> simp_all

/-- Only the next move decides. -/
theorem exhaust_congr {other : Browse} {cursor' : Cursor}
    (h : browse.next cursor = other.next cursor') :
    exhaust cursor browse = exhaust cursor' other := by
  generalize hnext : other.next cursor' = result at h
  match result with
  | (.error failure, moved, after) => rw [exhaust_of_error h, exhaust_of_error hnext]
  | (.ok none, moved, after) => rw [exhaust_of_none h, exhaust_of_none hnext]
  | (.ok (some found), moved, after) => rw [exhaust_of_some h, exhaust_of_some hnext]

end Exhausting

theorem handOut_handOut (browse : Browse) (m n : Nat) :
    (browse.handOut m).handOut n = browse.handOut (m + n) := by
  unfold handOut
  rw [Nat.add_assoc]

/-- What an answer has left is handed out before anything else is fetched. -/
theorem exhaust_running (endsAt : Option Instant) (instances : List Instance) (browse : Browse) :
    exhaust (.running endsAt instances) browse =
      { exhaust (.running endsAt []) (browse.handOut instances.length) with
        instances := instances ++
          (exhaust (.running endsAt []) (browse.handOut instances.length)).instances } := by
  induction instances generalizing browse with
  | nil => rfl
  | cons found later ih =>
    have hnext : browse.next (.running endsAt (found :: later)) =
        (.ok (some found), .running endsAt later, browse.handOut 1) := rfl
    rw [exhaust_of_some hnext, ih, handOut_handOut, Nat.add_comm]
    rfl

theorem exhaust_running_nil (endsAt : Option Instant) (browse : Browse) :
    exhaust (.running endsAt []) browse = browse.drain endsAt := by
  fun_induction drain endsAt browse with
  | case1 browse failure after hadvance =>
    have hnext := (next_running_nil browse endsAt).trans (fetch_of_error hadvance)
    exact exhaust_of_error hnext
  | case2 browse after hadvance =>
    have hnext := (next_running_nil browse endsAt).trans (fetch_of_none hadvance)
    exact exhaust_of_none hnext
  | case3 browse instances after hadvance hpending rest ih =>
    cases instances with
    | nil =>
      -- Nothing is handed out, so this is still the same move.
      have hnext := (next_running_nil browse endsAt).trans (fetch_of_nil hadvance)
      exact (exhaust_congr (hnext.trans (next_running_nil after endsAt).symm)).trans ih
    | cons found later =>
      have hnext := (next_running_nil browse endsAt).trans (fetch_of_cons hadvance)
      have hlength : 1 + later.length = (found :: later).length := Nat.add_comm _ _
      rw [exhaust_of_some hnext, exhaust_running, handOut_handOut, hlength, ih]
      rfl

/-- A fresh cursor that is moved until it stops hands out what collecting returns, and leaves the
browse as collecting does. -/
theorem exhaust_fresh (browse : Browse) : exhaust .fresh browse = browse.iterate := by
  rw [iterate]
  cases hbegin : browse.begin with
  | mk result begun =>
    cases result with
    | error failure =>
      have hnext : browse.next .fresh = (.error failure, .done, begun) := by
        rw [next, hbegin]
      exact exhaust_of_error hnext
    | ok endsAt =>
      have hnext : browse.next .fresh = begun.next (.running endsAt []) := by
        unfold next
        rw [hbegin]
      rw [exhaust_congr hnext, exhaust_running_nil]

end Browse

end SqlResolution
