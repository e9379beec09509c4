import SqlResolution.Proofs.Socket.Account
import SqlResolution.Proofs.Timeline.Clock

/-!
# The end of a stream

Once the stream of a socket has ended it stays so, with the cause that it first had, and
nobody waits for the socket any more: a receiver gets the datagrams that are left and then,
as often as it asks, the end. Neither answer needs the marker in the queue. A full queue
gets none, but whoever finds the queue empty looks at the stream itself.

The marker is for those who wait already. They wait at an empty queue, which has room for
it, so that the end makes them ready; and who is ready goes on in the same instant. That
the end came can be seen in the log: it has been told, once or more often, and never at
another time than that at which the receiver goes on.
-/

namespace SqlResolution

/-- The notice tells of an end, be it of a stream that has ended before. -/
def Notice.tellsEnd : Notice → Bool
  | transportError .. => true
  | connectionLost .. => true
  | _ => false

namespace Socket

variable {socket : Socket} {capacity : Int} {history : List Moment} {error : Option OsError}

/-- What a receiver gets after the end: the oldest datagram that is left, and then the end. -/
def remains (socket : Socket) (error : Option OsError) : Except Failure (Option Datagram) :=
  match socket.datagrams, error with
  | datagram :: _, _ => .ok (some datagram)
  | [], some error => .error (.transport (.receiveFailed socket.name error))
  | [], none => .ok none

theorem hasEnded_of_stream_eq (h : socket.stream = .ended error) : socket.hasEnded = true := by
  rw [hasEnded, h]
  rfl

theorem remains_of_datagrams_eq_nil (hdatagrams : socket.datagrams = [])
    (hended : socket.stream = .ended error) : socket.remains error = socket.atEnd := by
  unfold remains atEnd endError?
  rw [hdatagrams, hended]
  cases error <;> rfl

theorem take_of_ended (h : socket.IsAccountedBy capacity history)
    (hended : socket.stream = .ended error) :
    socket.take = (some (socket.remains error), { socket with queue := socket.queue.tail }) := by
  rw [take]
  split
  next datagram rest hqueue =>
    have hdatagrams : socket.datagrams = datagram :: rest.filterMap id := by
      rw [datagrams, hqueue]
      rfl
    have hremains : socket.remains error = .ok (some datagram) := by
      unfold remains
      rw [hdatagrams]
    rw [hremains, hqueue]
    rfl
  next rest hqueue =>
    rw [remains_of_datagrams_eq_nil (h.of_queue_eq_none_cons hqueue).2 hended, hqueue]
    rfl
  next hqueue =>
    have hdatagrams : socket.datagrams = [] := by
      rw [datagrams, hqueue]
      rfl
    rw [if_pos (hasEnded_of_stream_eq hended), remains_of_datagrams_eq_nil hdatagrams hended,
      hqueue]
    congr 1
    rw [List.tail_nil, ← hqueue]

/-! ## What wakes a receiver -/

/-- The end of the stream can be found in the queue, or something else before it. -/
def EndIsQueued (socket : Socket) : Prop :=
  socket.hasEnded = true → socket.queue ≠ []

theorem EndIsQueued.finish (h : socket.EndIsQueued) (error : Option OsError) :
    (socket.finish error).EndIsQueued := by
  rw [Socket.finish]
  split
  · exact h
  · intro hended
    dsimp only
    split
    next hfull =>
      intro hempty
      simp [isFull, hempty] at hfull
      omega
    next => simp

theorem EndIsQueued.handle (h : socket.EndIsQueued) (event : Event) :
    (socket.handle event).2.EndIsQueued := by
  cases event with
  | datagram datagram =>
    show (socket.accept datagram).2.EndIsQueued
    rw [accept]
    split
    · exact h
    · dsimp only
      split
      · exact h
      · intro hended
        simp
  | failure error =>
    show (socket.fail error).2.EndIsQueued
    rw [fail]
    split
    · exact h
    · exact h.finish _
  | loss error => exact h.finish error

/-- The end is told when it comes, and so is every later cause of an end. -/
theorem hasEnded_handle (socket : Socket) (event : Event) :
    (socket.handle event).2.hasEnded = true ↔
      socket.hasEnded = true ∨ ∃ notice ∈ (socket.handle event).1, notice.tellsEnd = true := by
  cases event with
  | datagram datagram =>
    show (socket.accept datagram).2.hasEnded = true ↔
      _ ∨ ∃ notice ∈ (socket.accept datagram).1, _
    rw [accept]
    split
    · simp
    · dsimp only
      split <;> simp [hasEnded, Notice.tellsEnd]
  | failure error =>
    show (socket.fail error).2.hasEnded = true ↔ _ ∨ ∃ notice ∈ (socket.fail error).1, _
    rw [fail]
    split
    · simp [Notice.tellsEnd]
    · simp [Notice.tellsEnd, hasEnded_finish]
  | loss error =>
    show (socket.finish error).hasEnded = true ↔
      _ ∨ ∃ notice ∈ [Notice.connectionLost socket.name error], _
    simp [Notice.tellsEnd, hasEnded_finish]

end Socket

namespace Timeline

variable {t u v : Timeline} {error : Option OsError} {before : List Entry}

/-! ## After the end -/

/-- Who receives after the end neither waits nor changes anything but the queue. -/
theorem receive_of_ended {capacity : Int} {history : List Moment}
    (h : t.socket.IsAccountedBy capacity history) (hended : t.socket.stream = .ended error)
    (length : Setting (Option Span)) :
    t.receive length =
      (t.socket.remains error, t.use { t.socket with queue := t.socket.queue.tail }) := by
  rw [receive, take, Socket.take_of_ended h hended]

theorem Occurs.ended {moments : List Moment} (h : Occurs t moments u)
    (hended : t.socket.stream = .ended error) : u.socket.stream = .ended error := by
  cases h with
  | clock | callDue => exact hended
  | called delivery rest => exact stream_arrive_of_ended (t.withCalled rest) hended delivery
  | agenda delivery rest => exact stream_arrive_of_ended (t.withAgenda rest) hended delivery
  | event event => exact stream_handle_of_ended t hended event
  | close =>
    rw [socket_close, Socket.finish_of_hasEnded (Socket.hasEnded_of_stream_eq hended)]
    exact hended
  | take => exact (Move.take t).ended hended

theorem History.ended {history : List Moment} (h : History t history u)
    (hended : t.socket.stream = .ended error) : u.socket.stream = .ended error := by
  induction h with
  | nil => exact hended
  | snoc _ hlast ih => exact hlast.ended ih

/-! ## When the end comes -/

/-- What was called is due, and so it comes in without a wait. -/
def CalledAreDue (t : Timeline) : Prop :=
  ∀ delivery ∈ t.called, delivery.time.isDue t.now = true

theorem CalledAreDue.arrive (h : t.CalledAreDue) (delivery : Delivery) :
    (t.arrive delivery).CalledAreDue := by
  rw [CalledAreDue, now_arrive, (arrive_keeps t delivery).1]
  exact h

theorem CalledAreDue.close (h : t.CalledAreDue) : t.close.CalledAreDue := by
  cases hlink : t.socket.link with
  | none =>
    rw [close_of_no_link hlink]
    exact h
  | some link =>
    rw [close_of_link hlink]
    exact CalledAreDue.arrive (t := t.use t.socket.unlinked) h ⟨t.now, link, .loss none⟩

theorem Occurs.calledAreDue {moments : List Moment} (hstep : Occurs t moments u)
    (h : t.CalledAreDue) : u.CalledAreDue := by
  cases hstep with
  | clock now turn cancelAt hnow =>
    exact fun delivery hmem => Instant.isDue_mono (h delivery hmem) hnow
  | callDue => exact List.all_eq_true.1 List.all_takeWhile
  | called delivery rest hcalled =>
    refine CalledAreDue.arrive (t := t.withCalled rest) ?_ delivery
    intro other hmem
    exact h other (hcalled ▸ List.mem_cons_of_mem _ hmem)
  | agenda delivery rest => exact CalledAreDue.arrive (t := t.withAgenda rest) h delivery
  | event event => exact h
  | close => exact h.close
  | take => exact h

theorem History.calledAreDue {history : List Moment} (hhistory : History t history u)
    (h : t.CalledAreDue) : u.CalledAreDue := by
  induction hhistory with
  | nil => exact h
  | snoc _ hlast ih => exact hlast.calledAreDue ih

/-- Since the log stood at a point, the end of the stream was told if it came, and at no other time
than now. -/
def EndsNow (before : List Entry) (t : Timeline) : Prop :=
  ∃ entries, t.log = before ++ entries ∧
    (t.socket.hasEnded = true ↔ ∃ entry ∈ entries, entry.notice.tellsEnd = true) ∧
    ∀ entry ∈ entries, entry.notice.tellsEnd = true → entry.time = t.now

theorem endsNow_of_flowing (h : t.socket.hasEnded = false) : EndsNow t.log t :=
  ⟨[], (List.append_nil _).symm, by simp [h], by simp⟩

/-- Before the end the clock is free. -/
theorem EndsNow.clock (h : EndsNow before t) {now : Instant} (turn : Nat)
    (cancelAt : Option Instant) (hnow : now = t.now ∨ t.socket.hasEnded = false) :
    EndsNow before { t with now, turn, cancelAt } := by
  obtain ⟨entries, hlog, hended, htime⟩ := h
  refine ⟨entries, hlog, hended, ?_⟩
  intro entry hmem htells
  rcases hnow with rfl | hflowing
  · exact htime entry hmem htells
  · rw [hended.2 ⟨entry, hmem, htells⟩] at hflowing
    cases hflowing

theorem EndsNow.take (h : EndsNow before t) : EndsNow before t.take.2 := by
  obtain ⟨queue, hsocket, -⟩ := Socket.take_frame t.socket
  have htake : t.take.2 = t.use { t.socket with queue } := congrArg t.use hsocket
  rw [htake]
  exact h

theorem EndsNow.handle (h : EndsNow before t) (event : Event) :
    EndsNow before (t.handle event) := by
  obtain ⟨entries, hlog, hended, htime⟩ := h
  refine ⟨entries ++ (t.socket.handle event).1.map fun notice => ⟨t.now, t.turn, notice⟩,
    ?_, ?_, ?_⟩
  · rw [← List.append_assoc, ← hlog]
    rfl
  · show (t.socket.handle event).2.hasEnded = true ↔ _
    rw [Socket.hasEnded_handle, hended]
    simp [or_and_right, exists_or]
  · intro entry hmem htells
    rcases List.mem_append.1 hmem with hold | hnew
    · exact htime entry hold htells
    · obtain ⟨notice, -, rfl⟩ := List.mem_map.1 hnew
      rfl

theorem EndsNow.arrive (h : EndsNow before t) (delivery : Delivery) :
    EndsNow before (t.arrive delivery) := by
  rw [Timeline.arrive]
  split
  · split
    · exact EndsNow.handle (t := t.disconnect _) h _
    · exact h.handle _
  · exact h

theorem EndsNow.networkAt (h : EndsNow before t) {time : Instant}
    (htime : time ≤ t.now ∨ t.socket.hasEnded = false) : EndsNow before (t.networkAt time) := by
  have hclock := htime.imp_left now_networkAt_of_le
  rw [networkAt_eq] at hclock ⊢
  exact h.clock _ _ hclock

theorem EndsNow.cancelled (h : EndsNow before t) (time : Instant)
    (hflowing : t.socket.hasEnded = false) : EndsNow before (t.cancelled time) := by
  rw [cancelled_eq]
  exact h.clock _ _ (.inr hflowing)

theorem EndsNow.programTurn (h : EndsNow before t) : EndsNow before t.programTurn :=
  h.clock _ _ (.inl rfl)

theorem EndsNow.deliver (h : EndsNow before t) {delivery : Delivery}
    (htime : delivery.time.isDue t.now = true ∨ t.socket.hasEnded = false) :
    EndsNow before (t.deliver delivery) := by
  rw [deliver_eq]
  refine EndsNow.arrive (h.networkAt ?_) delivery
  exact htime.imp_left fun hdue => Int.le_of_eq (instantOf_of_due hdue)

theorem EndsNow.foldl_deliver (called : List Delivery) (h : EndsNow before t)
    (hdue : ∀ delivery ∈ called, delivery.time.isDue t.now = true) :
    EndsNow before (called.foldl Timeline.deliver t) := by
  induction called generalizing t with
  | nil => exact h
  | cons delivery rest ih =>
    have hfirst := hdue delivery List.mem_cons_self
    refine ih (h.deliver (.inl hfirst)) ?_
    rw [now_deliver_of_due hfirst]
    exact fun other hmem => hdue other (List.mem_cons_of_mem _ hmem)

theorem EndsNow.deliverCalled (h : EndsNow before t) (hdue : t.CalledAreDue) :
    EndsNow before t.deliverCalled := by
  have hcalled : EndsNow before (t.withCalled []) := h
  exact (hcalled.foldl_deliver t.called hdue).programTurn

theorem EndsNow.deliverDue (agenda : List Delivery) (h : EndsNow before t) :
    EndsNow before (t.deliverDue agenda) := by
  induction agenda generalizing t with
  | nil => exact h
  | cons delivery rest ih =>
    rw [Timeline.deliverDue]
    split
    next hdue => exact ih (h.deliver (.inl hdue))
    next => exact h

theorem EndsNow.resume (h : EndsNow before t) (agenda : List Delivery) :
    EndsNow before (t.resume agenda) :=
  (h.deliverDue agenda).programTurn

theorem EndsNow.giveUp (h : EndsNow before t) (hflowing : t.socket.hasEnded = false)
    (limit : Option Instant) (agenda : List Delivery) :
    EndsNow before (t.giveUp limit agenda).2 := by
  unfold Timeline.giveUp
  split
  · dsimp only
    split
    · exact (h.cancelled _ hflowing).resume agenda
    · exact (h.networkAt (.inr hflowing)).resume agenda
  · exact (h.cancelled _ hflowing).resume agenda
  · exact (h.networkAt (.inr hflowing)).resume agenda
  · exact h.resume agenda

theorem Pass.endIsQueued (h : Pass t u) (hqueued : t.socket.EndIsQueued) :
    u.socket.EndIsQueued := by
  have harrive : ∀ (t : Timeline) (delivery : Delivery), t.socket.EndIsQueued →
      (t.arrive delivery).socket.EndIsQueued := by
    intro t delivery h
    rw [socket_arrive]
    split
    · exact h.handle _
    · exact h
  cases h with
  | clock | callDue => exact hqueued
  | called delivery rest => exact harrive (t.withCalled rest) delivery hqueued
  | agenda delivery rest => exact harrive (t.withAgenda rest) delivery hqueued

theorem Passes.endIsQueued (h : Passes t u) (hqueued : t.socket.EndIsQueued) :
    u.socket.EndIsQueued := by
  induction h with
  | refl => exact hqueued
  | tail _ hlast ih => exact hlast.endIsQueued ih

theorem flowing_of_not_ready (h : t.socket.EndIsQueued) (hready : ¬t.isReady = true) :
    t.socket.hasEnded = false := by
  cases hended : t.socket.hasEnded with
  | false => rfl
  | true => exact absurd (decide_eq_true (h hended)) hready

/-- Who waits is not ready, and so the clock moves only before the end. -/
theorem EndsNow.waitFrom (limit : Option Instant) (agenda : List Delivery)
    (h : EndsNow before t) (hqueued : t.socket.EndIsQueued) :
    EndsNow before (t.waitFrom limit agenda).2 := by
  induction agenda generalizing t with
  | nil =>
    rw [Timeline.waitFrom]
    split
    · exact h.resume []
    next hready => exact h.giveUp (flowing_of_not_ready hqueued hready) limit []
  | cons delivery rest ih =>
    unfold Timeline.waitFrom
    split
    · exact h.resume _
    next hready =>
      have hflowing := flowing_of_not_ready hqueued hready
      dsimp only
      split
      · exact ih (h.deliver (.inr hflowing))
          ((passes_deliver_agenda t delivery rest).endIsQueued hqueued)
      · exact h.giveUp hflowing limit _

theorem EndsNow.takeReady (h : EndsNow before t) : EndsNow before t.takeReady.2 := by
  rw [takeReady_eq]
  exact h.take

theorem EndsNow.await (h : EndsNow before t) (hqueued : t.socket.EndIsQueued)
    (hdue : t.CalledAreDue) (length : Option Span) : EndsNow before (t.await length).2 := by
  rw [Timeline.await]
  split
  · exact h
  · dsimp only
    have hcalled := h.deliverCalled hdue
    split
    · exact hcalled.takeReady.resume _
    · have hwait := EndsNow.waitFrom (length.map t.deliverCalled.now.after)
        t.deliverCalled.agenda hcalled ((passes_deliverCalled t).endIsQueued hqueued)
      change EndsNow before (t.deliverCalled.wait (length.map t.deliverCalled.now.after)).2 at hwait
      split
      next wait_eq =>
        rw [wait_eq] at hwait
        exact hwait.takeReady
      next wait_eq =>
        rw [wait_eq] at hwait
        exact hwait
      next wait_eq =>
        rw [wait_eq] at hwait
        exact hwait

theorem endsNow_receive (hdue : t.CalledAreDue) (hflowing : t.socket.hasEnded = false)
    (length : Setting (Option Span)) : EndsNow t.log (t.receive length).2 := by
  have hnow := (endsNow_of_flowing hflowing).take
  obtain ⟨queue, hsocket, -⟩ := Socket.take_frame t.socket
  rw [receive]
  split
  next htaken =>
    rw [htaken] at hnow
    exact hnow
  next u htaken =>
    have htaken : t.take.2 = u := congrArg Prod.snd htaken
    subst htaken
    have hqueued : t.take.2.socket.EndIsQueued := by
      intro hended
      change t.socket.take.2.hasEnded = true at hended
      rw [hsocket] at hended
      exact absurd (hended.symm.trans hflowing) (by decide)
    split
    · exact hnow.await hqueued hdue _
    · exact hnow

/-- Whatever a program has done with a new socket: if the stream has ended, then for good, and
whoever receives from now on gets what is left and then the end, without any wait; and if it has
not, then a receiver during whose wait it ends goes on in that instant. -/
theorem end_is_final (hnew : t.socket.IsNew) (hcalled : t.CalledAreDue) (steps : List Socket.Step)
    (hreached : (t.perform steps).2 = u) :
    (∀ error, u.socket.stream = .ended error →
      (∀ history v, History u history v → v.socket.stream = .ended error) ∧
      ∀ later v, (u.perform later).2 = v → ∀ length,
        v.receive length =
          (v.socket.remains error, v.use { v.socket with queue := v.socket.queue.tail })) ∧
    (u.socket.stream = .flowing → ∀ length, EndsNow u.log (u.receive length).2) := by
  subst hreached
  obtain ⟨history, hhistory, -⟩ := hands_perform t steps
  constructor
  · intro error hended
    refine ⟨fun _ v hlater => hlater.ended hended, ?_⟩
    rintro later v rfl length
    obtain ⟨others, hlater, -⟩ := hands_perform (t.perform steps).2 later
    exact receive_of_ended ((hhistory.trans hlater).isAccountedBy hnew) (hlater.ended hended) length
  · intro hflowing length
    have hended : (t.perform steps).2.socket.hasEnded = false :=
      decide_eq_false (not_not.2 hflowing)
    exact endsNow_receive (hhistory.calledAreDue hcalled) hended length

/-- A datagram for which there is room, and then two causes of an end, for which there is none. -/
def fillAndFail : List Socket.Step :=
  [.event (.datagram ⟨⟨"10.0.0.2", .value 1434⟩, [1]⟩), .event (.failure ⟨5, "Input/output error"⟩),
    .close]

theorem end_is_final_fillAndFail :
    narrow.socket.IsNew ∧ narrow.CalledAreDue ∧
    (narrow.perform fillAndFail).2.socket.stream = .ended (some ⟨5, "Input/output error"⟩) ∧
    (narrow.perform fillAndFail).2.socket.queue =
      [some ⟨⟨"10.0.0.2", .value 1434⟩, [1]⟩] ∧
    ((narrow.perform fillAndFail).2.receive .blank).1 =
      .ok (some ⟨⟨"10.0.0.2", .value 1434⟩, [1]⟩) ∧
    (narrow.socket.stream = .flowing → ∀ length, EndsNow [] (narrow.receive length).2) := by
  have hnew : narrow.socket.IsNew := Socket.isNew_new _ _ _
  have hcalled : narrow.CalledAreDue := by
    intro delivery hmem
    cases hmem
  have hended : (narrow.perform fillAndFail).2.socket.stream =
      .ended (some ⟨5, "Input/output error"⟩) := by
    decide
  have hreceive := ((end_is_final hnew hcalled fillAndFail rfl).1 _ hended).2 [] _ rfl .blank
  refine ⟨hnew, hcalled, hended, by decide, ?_, (end_is_final hnew hcalled [] rfl).2⟩
  exact (congrArg Prod.fst hreceive).trans rfl

end Timeline

end SqlResolution
