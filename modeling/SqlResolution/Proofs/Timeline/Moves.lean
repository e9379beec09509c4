import Mathlib.Logic.Relation
import SqlResolution.Collection
import SqlResolution.Proofs.Socket

/-!
# What can happen while the program waits

Sleeping, waiting and taking are written as loops over the agenda, each with its own rule for
when to stop. What they do to a timeline is always the same few things, one after another:
something is noted, the clock moves, a delivery arrives, what is due is called, or the head
of the queue is taken. These are the moves, and every operation that waits is a run of them.
While the program itself does nothing, no more than the clock, the deliveries and the calls
are left: a wait alone, before anything is taken, is a run of such passes.

So what holds of a timeline before and after each move holds before and after every wait,
whatever the loops look like. The loops carry the agenda as an argument and leave that of
the timeline as it was; a run begins from the timeline that has the argument put in its
place.
-/

namespace SqlResolution

namespace Timeline

def withCalled (t : Timeline) (called : List Delivery) : Timeline :=
  { t with called }

def withAgenda (t : Timeline) (agenda : List Delivery) : Timeline :=
  { t with agenda }

/-- What a delivery does apart from the clock. -/
def arrive (t : Timeline) (delivery : Delivery) : Timeline :=
  if t.isConnected delivery.link then
    match delivery.event with
    | .loss error => (t.disconnect delivery.link).handle (.loss error)
    | event => t.handle event
  else t

/-- One thing that happens while the program waits. -/
inductive Move : Timeline → Timeline → Prop
  | note (t : Timeline) (notices : List Notice) (h : ∀ notice ∈ notices, notice.newState? = none) :
    Move t (t.note notices)
  | clock (t : Timeline) (now : Instant) (turn : Nat) (cancelAt : Option Instant)
    (hnow : t.now ≤ now) (hcancel : cancelAt = t.cancelAt ∨ cancelAt = none) :
    Move t { t with now, turn, cancelAt }
  | called (t : Timeline) (delivery : Delivery) (rest : List Delivery)
    (h : t.called = delivery :: rest) : Move t ((t.withCalled rest).arrive delivery)
  | agenda (t : Timeline) (delivery : Delivery) (rest : List Delivery)
    (h : t.agenda = delivery :: rest) : Move t ((t.withAgenda rest).arrive delivery)
  | callDue (t : Timeline) (h : t.called = []) : Move t t.callDue
  | take (t : Timeline) : Move t t.take.2

abbrev Moves : Timeline → Timeline → Prop :=
  Relation.ReflTransGen Move

/-- One thing that happens while the program does nothing: it neither notes anything nor takes
anything. -/
inductive Pass : Timeline → Timeline → Prop
  | clock (t : Timeline) (now : Instant) (turn : Nat) (cancelAt : Option Instant)
    (hnow : t.now ≤ now) (hcancel : cancelAt = t.cancelAt ∨ cancelAt = none) :
    Pass t { t with now, turn, cancelAt }
  | called (t : Timeline) (delivery : Delivery) (rest : List Delivery)
    (h : t.called = delivery :: rest) : Pass t ((t.withCalled rest).arrive delivery)
  | agenda (t : Timeline) (delivery : Delivery) (rest : List Delivery)
    (h : t.agenda = delivery :: rest) : Pass t ((t.withAgenda rest).arrive delivery)
  | callDue (t : Timeline) (h : t.called = []) : Pass t t.callDue

abbrev Passes : Timeline → Timeline → Prop :=
  Relation.ReflTransGen Pass

theorem Move.moves {t u : Timeline} (h : Move t u) : Moves t u :=
  Relation.ReflTransGen.single h

theorem Pass.passes {t u : Timeline} (h : Pass t u) : Passes t u :=
  Relation.ReflTransGen.single h

theorem Pass.move {t u : Timeline} (h : Pass t u) : Move t u := by
  cases h with
  | clock now turn cancelAt hnow hcancel => exact .clock t now turn cancelAt hnow hcancel
  | called delivery rest h => exact .called t delivery rest h
  | agenda delivery rest h => exact .agenda t delivery rest h
  | callDue h => exact .callDue t h

theorem Passes.moves {t u : Timeline} (h : Passes t u) : Moves t u :=
  Relation.ReflTransGen.mono (fun _ _ => Pass.move) _ _ h

theorem Passes.refl (t : Timeline) : Passes t t :=
  Relation.ReflTransGen.refl

theorem Moves.refl (t : Timeline) : Moves t t :=
  Relation.ReflTransGen.refl

/-- What every move preserves, a run preserves. -/
theorem Moves.preserves {P : Timeline → Prop} (hstep : ∀ {t u}, Move t u → P t → P u)
    {t u : Timeline} (h : Moves t u) (ht : P t) : P u := by
  induction h with
  | refl => exact ht
  | tail _ hlast ih => exact hstep hlast ih

/-! ## The clock -/

theorem networkAt_eq (t : Timeline) (time : Instant) :
    t.networkAt time =
      { t with
        now := if t.now < time then time else t.now
        turn := if t.now < time then 1 else t.turn + (t.turn + 1) % 2 } := by
  rw [networkAt]
  split <;> rfl

theorem cancelled_eq (t : Timeline) (time : Instant) :
    t.cancelled time =
      { t with
        now := if t.now < time then time else t.now
        turn := if t.now < time then 0 else t.turn + (t.turn + 1) % 2
        cancelAt := none } := by
  rw [cancelled]
  split
  · rfl
  next hlate => simp only [networkAt, hlate, if_false]

theorem le_clock (now time : Instant) : now ≤ if now < time then time else now := by
  split
  next hlt => exact Int.le_of_lt hlt
  next => exact Int.le_refl now

theorem passes_networkAt (t : Timeline) (time : Instant) : Passes t (t.networkAt time) := by
  rw [networkAt_eq]
  exact (Pass.clock t _ _ t.cancelAt (le_clock _ _) (.inl rfl)).passes

theorem passes_cancelled (t : Timeline) (time : Instant) : Passes t (t.cancelled time) := by
  rw [cancelled_eq]
  exact (Pass.clock t _ _ none (le_clock _ _) (.inr rfl)).passes

theorem passes_programTurn (t : Timeline) : Passes t t.programTurn :=
  (Pass.clock t t.now _ t.cancelAt (Int.le_refl _) (.inl rfl)).passes

theorem networkAt_withCalled (t : Timeline) (called : List Delivery) (time : Instant) :
    (t.withCalled called).networkAt time = (t.networkAt time).withCalled called := by
  rw [networkAt_eq, networkAt_eq]
  rfl

theorem networkAt_withAgenda (t : Timeline) (agenda : List Delivery) (time : Instant) :
    (t.withAgenda agenda).networkAt time = (t.networkAt time).withAgenda agenda := by
  rw [networkAt_eq, networkAt_eq]
  rfl

theorem cancelled_withAgenda (t : Timeline) (agenda : List Delivery) (time : Instant) :
    (t.withAgenda agenda).cancelled time = (t.cancelled time).withAgenda agenda := by
  rw [cancelled_eq, cancelled_eq]
  rfl

/-! ## Deliveries -/

theorem deliver_eq (t : Timeline) (delivery : Delivery) :
    t.deliver delivery = (t.networkAt (t.instantOf delivery.time)).arrive delivery := rfl

theorem arrive_withCalled (t : Timeline) (called : List Delivery) (delivery : Delivery) :
    (t.withCalled called).arrive delivery = (t.arrive delivery).withCalled called := by
  have hsame : (t.withCalled called).isConnected delivery.link = t.isConnected delivery.link := rfl
  unfold arrive
  rw [hsame]
  split
  · split <;> rfl
  · rfl

theorem arrive_withAgenda (t : Timeline) (agenda : List Delivery) (delivery : Delivery) :
    (t.withAgenda agenda).arrive delivery = (t.arrive delivery).withAgenda agenda := by
  have hsame : (t.withAgenda agenda).isConnected delivery.link = t.isConnected delivery.link := rfl
  unfold arrive
  rw [hsame]
  split
  · split <;> rfl
  · rfl

theorem passes_deliver_called (t : Timeline) (delivery : Delivery) (rest : List Delivery) :
    Passes (t.withCalled (delivery :: rest)) ((t.deliver delivery).withCalled rest) := by
  have hclock := passes_networkAt (t.withCalled (delivery :: rest)) (t.instantOf delivery.time)
  rw [networkAt_withCalled] at hclock
  have harrive := Pass.called ((t.networkAt (t.instantOf delivery.time)).withCalled
    (delivery :: rest)) delivery rest rfl
  rw [deliver_eq, ← arrive_withCalled]
  exact hclock.tail harrive

theorem passes_deliver_agenda (t : Timeline) (delivery : Delivery) (rest : List Delivery) :
    Passes (t.withAgenda (delivery :: rest)) ((t.deliver delivery).withAgenda rest) := by
  have hclock := passes_networkAt (t.withAgenda (delivery :: rest)) (t.instantOf delivery.time)
  rw [networkAt_withAgenda] at hclock
  have harrive := Pass.agenda ((t.networkAt (t.instantOf delivery.time)).withAgenda
    (delivery :: rest)) delivery rest rfl
  rw [deliver_eq, ← arrive_withAgenda]
  exact hclock.tail harrive

theorem passes_foldl_deliver (called : List Delivery) {t : Timeline} (h : t.called = []) :
    Passes (t.withCalled called) (called.foldl deliver t) := by
  induction called generalizing t with
  | nil =>
    obtain ⟨⟩ := t
    cases h
    exact .refl _
  | cons delivery rest ih =>
    have hrest := ih ((called_deliver t delivery).trans h)
    exact (passes_deliver_called t delivery rest).trans hrest

theorem called_foldl_deliver (called : List Delivery) (t : Timeline) :
    (called.foldl deliver t).called = t.called := by
  induction called generalizing t with
  | nil => rfl
  | cons delivery rest ih => rw [List.foldl_cons, ih, called_deliver]

theorem called_deliverCalled (t : Timeline) : t.deliverCalled.called = [] :=
  called_foldl_deliver t.called { t with called := [] }

theorem passes_deliverCalled (t : Timeline) : Passes t t.deliverCalled :=
  (@passes_foldl_deliver t.called { t with called := [] } rfl).trans (passes_programTurn _)

theorem passes_deliverDue (agenda : List Delivery) (t : Timeline) :
    Passes (t.withAgenda agenda) (t.deliverDue agenda) := by
  induction agenda generalizing t with
  | nil => exact .refl _
  | cons delivery rest ih =>
    rw [deliverDue]
    split
    · exact (passes_deliver_agenda t delivery rest).trans (ih _)
    · exact .refl _

/-! ## Waiting -/

theorem passes_resume (agenda : List Delivery) (t : Timeline) :
    Passes (t.withAgenda agenda) (t.resume agenda) :=
  (passes_deliverDue agenda t).trans (passes_programTurn _)

theorem passes_networkAt_resume (time : Instant) (agenda : List Delivery) (t : Timeline) :
    Passes (t.withAgenda agenda) ((t.networkAt time).resume agenda) := by
  have hclock := passes_networkAt (t.withAgenda agenda) time
  rw [networkAt_withAgenda] at hclock
  exact hclock.trans (passes_resume agenda _)

theorem passes_cancelled_resume (time : Instant) (agenda : List Delivery) (t : Timeline) :
    Passes (t.withAgenda agenda) ((t.cancelled time).resume agenda) := by
  have hclock := passes_cancelled (t.withAgenda agenda) time
  rw [cancelled_withAgenda] at hclock
  exact hclock.trans (passes_resume agenda _)

theorem passes_giveUp (limit : Option Instant) (agenda : List Delivery) (t : Timeline) :
    Passes (t.withAgenda agenda) (t.giveUp limit agenda).2 := by
  unfold giveUp
  split
  · dsimp only
    split
    · exact passes_cancelled_resume _ agenda t
    · exact passes_networkAt_resume _ agenda t
  · exact passes_cancelled_resume _ agenda t
  · exact passes_networkAt_resume _ agenda t
  · exact passes_resume agenda t

theorem passes_waitFrom (limit : Option Instant) (agenda : List Delivery) (t : Timeline) :
    Passes (t.withAgenda agenda) (t.waitFrom limit agenda).2 := by
  induction agenda generalizing t with
  | nil =>
    rw [waitFrom]
    split
    · exact passes_resume [] t
    · exact passes_giveUp limit [] t
  | cons delivery rest ih =>
    unfold waitFrom
    split
    · exact passes_resume _ t
    · dsimp only
      split
      · exact (passes_deliver_agenda t delivery rest).trans (ih _)
      · exact passes_giveUp limit _ t

theorem passes_wait (t : Timeline) (limit : Option Instant) : Passes t (t.wait limit).2 :=
  passes_waitFrom limit t.agenda t

theorem passes_sleepFrom (wakeTime : Instant) (agenda : List Delivery) (t : Timeline) :
    Passes (t.withAgenda agenda) (t.sleepFrom wakeTime agenda) := by
  induction agenda generalizing t with
  | nil => exact passes_networkAt_resume _ [] t
  | cons delivery rest ih =>
    rw [sleepFrom]
    split
    · exact (passes_deliver_agenda t delivery rest).trans (ih _)
    · exact passes_networkAt_resume _ _ t

theorem passes_sleep (t : Timeline) (length : Span) : Passes t (t.sleep length) := by
  have hcalled := passes_deliverCalled t
  unfold sleep
  dsimp only
  split
  · exact hcalled.trans (passes_sleepFrom _ _ t.deliverCalled)
  · exact hcalled.trans (Pass.callDue _ (called_deliverCalled t)).passes

theorem moves_deliverCalled (t : Timeline) : Moves t t.deliverCalled :=
  (passes_deliverCalled t).moves

theorem moves_wait (t : Timeline) (limit : Option Instant) : Moves t (t.wait limit).2 :=
  (passes_wait t limit).moves

/-- Every sleep is a run of moves. -/
theorem moves_sleep (t : Timeline) (length : Span) : Moves t (t.sleep length) :=
  (passes_sleep t length).moves

/-! ## Taking -/

theorem takeReady_eq (t : Timeline) : t.takeReady = (t.take.1.getD (.ok none), t.take.2) := by
  rw [takeReady]
  split
  next htake =>
    rw [htake]
    rfl
  next htake =>
    rw [htake]
    rfl

theorem moves_takeReady (t : Timeline) : Moves t t.takeReady.2 := by
  rw [takeReady_eq]
  exact (Move.take t).moves

theorem moves_takeCalled (t : Timeline) : Moves t t.takeCalled.2 :=
  (moves_takeReady t).trans (passes_resume _ _).moves

theorem moves_await (t : Timeline) (length : Option Span) : Moves t (t.await length).2 := by
  rw [await]
  split
  · exact .refl t
  · dsimp only
    have hcalled := moves_deliverCalled t
    split
    · exact hcalled.trans (moves_takeCalled _)
    · have hwait := moves_wait t.deliverCalled (length.map t.deliverCalled.now.after)
      split
      next wait_eq =>
        rw [wait_eq] at hwait
        exact (hcalled.trans hwait).trans (moves_takeReady _)
      next wait_eq =>
        rw [wait_eq] at hwait
        exact hcalled.trans hwait
      next wait_eq =>
        rw [wait_eq] at hwait
        exact hcalled.trans hwait

theorem moves_receive (t : Timeline) (length : Setting (Option Span)) :
    Moves t (t.receive length).2 := by
  have htake := (Move.take t).moves
  rw [receive]
  split
  next htaken =>
    rw [htaken] at htake
    exact htake
  next htaken =>
    rw [htaken] at htake
    split
    · exact htake.trans (moves_await _ _)
    · exact htake

/-- Every wait for the next answer is a run of moves. -/
theorem moves_awaitNext (t : Timeline) (limits : Limits) (endsAt : Option Instant) :
    Moves t (t.awaitNext limits endsAt).2 := by
  unfold awaitNext
  dsimp only
  split
  · refine (Move.note t _ ?_).moves
    intro notice hnotice
    rw [List.mem_singleton.1 hnotice]
    rfl
  · split
    · exact moves_receive _ _
    · exact .refl t

end Timeline

end SqlResolution
