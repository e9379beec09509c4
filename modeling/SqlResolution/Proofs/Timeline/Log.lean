import SqlResolution.Collection
import SqlResolution.Proofs.Timeline.Moves

/-!
# What was said is only written

Nothing that happens looks at the log or at what was sent. If other things were sent and told
before, the same happens, and they still stand in front of the rest afterwards. So two exchanges
that differ in their logs, because one of them says more about what it takes, take the same.
-/

namespace SqlResolution

namespace Timeline

variable {t : Timeline} (sent : List Sent) (entries : List Entry)

/-- The timeline as it is if other things were sent and told before. -/
def recalling (sent : List Sent) (entries : List Entry) (t : Timeline) : Timeline :=
  { t with
    sent := sent ++ t.sent
    log := entries ++ t.log }

def bare (t : Timeline) : Timeline :=
  { t with log := [] }

theorem recalling_log_bare (t : Timeline) : t.bare.recalling [] t.log = t := by
  rw [recalling, bare, List.append_nil]
  rfl

theorem note_recalling (t : Timeline) (notices : List Notice) :
    (t.recalling sent entries).note notices = (t.note notices).recalling sent entries := by
  unfold note recalling
  rw [List.append_assoc]

theorem networkAt_recalling (t : Timeline) (time : Instant) :
    (t.recalling sent entries).networkAt time = (t.networkAt time).recalling sent entries := by
  rw [networkAt_eq, networkAt_eq]
  rfl

theorem cancelled_recalling (t : Timeline) (time : Instant) :
    (t.recalling sent entries).cancelled time = (t.cancelled time).recalling sent entries := by
  rw [cancelled_eq, cancelled_eq]
  rfl

theorem handle_recalling (t : Timeline) (event : Event) :
    (t.recalling sent entries).handle event = (t.handle event).recalling sent entries := by
  show ((t.recalling sent entries).note (t.socket.handle event).1).use (t.socket.handle event).2 = _
  rw [note_recalling]
  rfl

theorem arrive_recalling (t : Timeline) (delivery : Delivery) :
    (t.recalling sent entries).arrive delivery = (t.arrive delivery).recalling sent entries := by
  have hsame : (t.recalling sent entries).isConnected delivery.link =
      t.isConnected delivery.link := rfl
  unfold arrive
  rw [hsame]
  split
  · split
    · exact handle_recalling sent entries (t.disconnect delivery.link) _
    · exact handle_recalling sent entries t _
  · rfl

theorem deliver_recalling (t : Timeline) (delivery : Delivery) :
    (t.recalling sent entries).deliver delivery = (t.deliver delivery).recalling sent entries := by
  have hsame : (t.recalling sent entries).instantOf delivery.time = t.instantOf delivery.time := rfl
  rw [deliver_eq, hsame, networkAt_recalling, arrive_recalling]
  rfl

theorem foldl_deliver_recalling (called : List Delivery) (t : Timeline) :
    called.foldl deliver (t.recalling sent entries) =
      (called.foldl deliver t).recalling sent entries := by
  induction called generalizing t with
  | nil => rfl
  | cons delivery rest ih => rw [List.foldl_cons, deliver_recalling, ih, List.foldl_cons]

theorem deliverCalled_recalling (t : Timeline) :
    (t.recalling sent entries).deliverCalled = t.deliverCalled.recalling sent entries :=
  congrArg programTurn (foldl_deliver_recalling sent entries t.called { t with called := [] })

theorem deliverDue_recalling (agenda : List Delivery) (t : Timeline) :
    (t.recalling sent entries).deliverDue agenda =
      (t.deliverDue agenda).recalling sent entries := by
  induction agenda generalizing t with
  | nil => rfl
  | cons delivery rest ih =>
    have hsame : (t.recalling sent entries).now = t.now := rfl
    unfold deliverDue
    rw [hsame]
    split
    · rw [deliver_recalling, ih]
    · rfl

theorem resume_recalling (agenda : List Delivery) (t : Timeline) :
    (t.recalling sent entries).resume agenda = (t.resume agenda).recalling sent entries :=
  congrArg programTurn (deliverDue_recalling sent entries agenda t)

def recalled {α : Type} (entries : List Entry) (outcome : α × Timeline) : α × Timeline :=
  (outcome.1, outcome.2.recalling sent entries)

theorem giveUp_recalling (limit : Option Instant) (agenda : List Delivery) (t : Timeline) :
    (t.recalling sent entries).giveUp limit agenda =
      recalled sent entries (t.giveUp limit agenda) := by
  have hcancel : (t.recalling sent entries).cancelAt = t.cancelAt := rfl
  have hinstant : ∀ time, (t.recalling sent entries).instantOf time = t.instantOf time :=
    fun _ => rfl
  unfold giveUp
  rw [hcancel]
  split
  · dsimp only
    rw [hinstant]
    split
    · rw [cancelled_recalling, resume_recalling]
      rfl
    · rw [networkAt_recalling, resume_recalling]
      rfl
  · rw [hinstant, cancelled_recalling, resume_recalling]
    rfl
  · rw [hinstant, networkAt_recalling, resume_recalling]
    rfl
  · rw [resume_recalling]
    rfl

theorem waitFrom_recalling (limit : Option Instant) (agenda : List Delivery) (t : Timeline) :
    (t.recalling sent entries).waitFrom limit agenda =
      recalled sent entries (t.waitFrom limit agenda) := by
  have hready : ∀ u : Timeline, (u.recalling sent entries).isReady = u.isReady := fun _ => rfl
  induction agenda generalizing t with
  | nil =>
    unfold waitFrom
    rw [hready]
    split
    · rw [resume_recalling]
      rfl
    · exact giveUp_recalling sent entries limit [] t
  | cons delivery rest ih =>
    have htime : (t.recalling sent entries).isInTime limit delivery.time =
      t.isInTime limit delivery.time := rfl
    unfold waitFrom
    rw [hready]
    split
    · rw [resume_recalling]
      rfl
    · dsimp only
      rw [htime]
      split
      · rw [deliver_recalling, ih]
      · exact giveUp_recalling sent entries limit _ t

theorem wait_recalling (t : Timeline) (limit : Option Instant) :
    (t.recalling sent entries).wait limit = recalled sent entries (t.wait limit) :=
  waitFrom_recalling sent entries limit t.agenda t

theorem take_recalling (t : Timeline) :
    (t.recalling sent entries).take = recalled sent entries t.take := rfl

theorem takeReady_recalling (t : Timeline) :
    (t.recalling sent entries).takeReady = recalled sent entries t.takeReady := by
  unfold takeReady
  rw [take_recalling]
  generalize t.take = taken
  obtain ⟨found, u⟩ := taken
  cases found <;> rfl

theorem takeCalled_recalling (t : Timeline) :
    (t.recalling sent entries).takeCalled = recalled sent entries t.takeCalled := by
  unfold takeCalled
  rw [takeReady_recalling]
  generalize t.takeReady = taken
  obtain ⟨result, u⟩ := taken
  show (result, (u.recalling sent entries).resume u.agenda) = _
  rw [resume_recalling]
  rfl

theorem await_recalling (t : Timeline) (length : Option Span) :
    (t.recalling sent entries).await length = recalled sent entries (t.await length) := by
  have hready : ∀ u : Timeline, (u.recalling sent entries).isReady = u.isReady := fun _ => rfl
  have hnow : ∀ u : Timeline, (u.recalling sent entries).now = u.now := fun _ => rfl
  unfold await
  split
  · rfl
  · dsimp only
    rw [deliverCalled_recalling, hready, hnow]
    split
    · exact takeCalled_recalling sent entries _
    · rw [wait_recalling]
      generalize t.deliverCalled.wait (length.map t.deliverCalled.now.after) = waited
      obtain ⟨wake, u⟩ := waited
      cases wake with
      | ready => exact takeReady_recalling sent entries u
      | timeUp => rfl
      | cancelled => rfl

theorem receive_recalling (t : Timeline) (length : Setting (Option Span)) :
    (t.recalling sent entries).receive length = recalled sent entries (t.receive length) := by
  unfold receive
  rw [take_recalling]
  generalize t.take = taken
  obtain ⟨found, u⟩ := taken
  cases found with
  | some result => rfl
  | none =>
    cases length with
    | value length => exact await_recalling sent entries u length
    | blank => rfl

theorem awaitNext_recalling (t : Timeline) (limits : Limits) (endsAt : Option Instant) :
    (t.recalling sent entries).awaitNext limits endsAt =
      recalled sent entries (t.awaitNext limits endsAt) := by
  have hnow : (t.recalling sent entries).now = t.now := rfl
  unfold awaitNext
  dsimp only
  rw [hnow]
  split
  · rw [note_recalling]
    rfl
  · split
    · exact receive_recalling sent entries t _
    · rfl

/-! ## Collecting -/

section Collecting

variable {limits : Limits} {endsAt : Option Instant} {after : Timeline}

theorem awaitMany_of_error {failure : Failure}
    (h : t.awaitNext limits endsAt = (.error failure, after)) :
    awaitMany limits endsAt t = ⟨[], some failure, after⟩ := by
  rw [awaitMany]
  split <;> simp_all

theorem awaitMany_of_none (h : t.awaitNext limits endsAt = (.ok none, after)) :
    awaitMany limits endsAt t = ⟨[], none, after⟩ := by
  rw [awaitMany]
  split <;> simp_all

theorem awaitMany_of_some {datagram : Datagram}
    (h : t.awaitNext limits endsAt = (.ok (some datagram), after)) :
    awaitMany limits endsAt t =
      { awaitMany limits endsAt after with
        datagrams := datagram :: (awaitMany limits endsAt after).datagrams } := by
  rw [awaitMany]
  split <;> simp_all

end Collecting

/-- What is taken does not depend on the log. -/
theorem awaitMany_recalling (limits : Limits) (endsAt : Option Instant) (t : Timeline) :
    awaitMany limits endsAt (t.recalling sent entries) =
      { awaitMany limits endsAt t with
        timeline := (awaitMany limits endsAt t).timeline.recalling sent entries } := by
  fun_induction awaitMany limits endsAt t with
  | case1 t failure after hnext =>
    refine awaitMany_of_error ?_
    rw [awaitNext_recalling, hnext]
    rfl
  | case2 t after hnext =>
    refine awaitMany_of_none ?_
    rw [awaitNext_recalling, hnext]
    rfl
  | case3 t datagram after hnext hpending rest ih =>
    have hsome : (t.recalling sent entries).awaitNext limits endsAt =
        (.ok (some datagram), after.recalling sent entries) := by
      rw [awaitNext_recalling, hnext]
      rfl
    rw [awaitMany_of_some hsome, ih]

/-- Timelines that differ in nothing but their logs take the same, and still differ in nothing
else. -/
theorem awaitMany_congr {u : Timeline} (h : t.bare = u.bare) (limits : Limits)
    (endsAt : Option Instant) :
    (awaitMany limits endsAt t).datagrams = (awaitMany limits endsAt u).datagrams ∧
      (awaitMany limits endsAt t).failure = (awaitMany limits endsAt u).failure ∧
      (awaitMany limits endsAt t).timeline.bare = (awaitMany limits endsAt u).timeline.bare := by
  rw [← recalling_log_bare t, awaitMany_recalling, ← recalling_log_bare u, awaitMany_recalling, h]
  exact ⟨rfl, rfl, rfl⟩

/-- What is taken does not depend on what was noted before. -/
theorem awaitMany_note (limits : Limits) (endsAt : Option Instant) (t : Timeline)
    (notices : List Notice) :
    (awaitMany limits endsAt (t.note notices)).datagrams = (awaitMany limits endsAt t).datagrams ∧
      (awaitMany limits endsAt (t.note notices)).failure = (awaitMany limits endsAt t).failure := by
  have hbare : (t.note notices).bare = t.bare := rfl
  obtain ⟨hdatagrams, hfailure, -⟩ := awaitMany_congr hbare limits endsAt
  exact ⟨hdatagrams, hfailure⟩

/-! ## Closing -/

theorem close_recalling (t : Timeline) :
    (t.recalling sent entries).close = t.close.recalling sent entries := by
  have hlink : (t.recalling sent entries).socket.link = t.socket.link := rfl
  unfold close
  rw [hlink]
  split
  · rfl
  next link _ =>
    -- To hang up is to lose the connection, which arrives like any event.
    have harrive := arrive_recalling sent entries (t.use { t.socket with link := none })
      ⟨t.now, link, .loss none⟩
    exact congrArg (fun u => (u.release link).use ((u.release link).socket.finish none)) harrive

theorem close_congr {u : Timeline} (h : t.bare = u.bare) : t.close.bare = u.close.bare := by
  rw [← recalling_log_bare t, close_recalling, ← recalling_log_bare u, close_recalling, h]
  rfl

end Timeline

end SqlResolution
