import SqlResolution.Proofs.Exchange.Reach
import SqlResolution.Proofs.Timeline.Clock

/-!
# Waiting for what matters

Who waits at an empty queue is not disturbed by a refusal: it is told of in the log, and
that is all. The first event that is no refusal puts something into the queue. If it comes in
time, it ends the wait; all others that are due by then are added behind it. If not, the wait
goes on until it is over or cancelled, whichever comes first.
-/

namespace SqlResolution

/-- Somebody said that nobody listens. -/
def Event.isRefusal : Event → Bool
  | .failure error => error.isRefused
  | _ => false

/-- What a receiver gets by an event that comes in at an empty queue. -/
def Event.outcome (name : SocketName) : Event → Except Failure (Option Datagram)
  | .datagram found => .ok (some found)
  | .failure error => .error (.transport (.receiveFailed name error))
  | .loss (some error) => .error (.transport (.receiveFailed name error))
  | .loss none => .ok none

namespace Socket

variable {socket : Socket} {event : Event}

theorem handle_of_isRefusal (h : event.isRefusal = true) : (socket.handle event).2 = socket := by
  cases event with
  | datagram datagram => cases h
  | loss error => cases h
  | failure error =>
    have hrefused : error.isRefused = true := h
    show (socket.fail error).2 = socket
    rw [fail, if_pos hrefused]

theorem queue_prefix_handle (socket : Socket) (event : Event) :
    socket.queue <+: (socket.handle event).2.queue := by
  have hfinish : ∀ error, socket.queue <+: (socket.finish error).queue := by
    intro error
    rw [finish]
    split
    · exact List.prefix_refl _
    · dsimp only
      split
      · exact List.prefix_refl _
      · exact List.prefix_append _ _
  cases event with
  | datagram datagram =>
    show socket.queue <+: (socket.accept datagram).2.queue
    rw [accept]
    split
    · exact List.prefix_refl _
    · dsimp only
      split
      · exact List.prefix_refl _
      · exact List.prefix_append _ _
  | failure error =>
    show socket.queue <+: (socket.fail error).2.queue
    rw [fail]
    split
    · exact List.prefix_refl _
    · exact hfinish _
  | loss error => exact hfinish error

/-- The event stands first in the queue. -/
def Shows (socket : Socket) : Event → Prop
  | .datagram datagram => [some datagram] <+: socket.queue
  | .failure error => [none] <+: socket.queue ∧ socket.stream = .ended (some error)
  | .loss error => [none] <+: socket.queue ∧ socket.stream = .ended error

theorem shows_handle (hqueue : socket.queue = []) (hstream : socket.stream = .flowing)
    (hevent : event.isRefusal = false) : (socket.handle event).2.Shows event := by
  have hended : ¬socket.hasEnded = true := by simp [hasEnded, hstream]
  have hroom : ¬socket.isFull = true := by
    simp only [isFull, hqueue, Bool.and_eq_true, decide_eq_true_eq, List.length_nil]
    omega
  have hfinish : ∀ error, [none] <+: (socket.finish error).queue ∧
      (socket.finish error).stream = .ended error := by
    intro error
    rw [finish, if_neg hended, if_neg hroom, hqueue]
    exact ⟨List.prefix_refl _, rfl⟩
  cases event with
  | datagram datagram =>
    show [some datagram] <+: (socket.accept datagram).2.queue
    rw [accept, if_neg hended, if_neg hroom, hqueue]
    exact List.prefix_refl _
  | failure error =>
    have hrefused : ¬error.isRefused = true := ne_true_of_eq_false hevent
    show [none] <+: (socket.fail error).2.queue ∧ (socket.fail error).2.stream = _
    rw [fail, if_neg hrefused]
    exact hfinish _
  | loss error => exact hfinish error

theorem Shows.queue_ne_nil (h : socket.Shows event) : socket.queue ≠ [] := by
  intro hempty
  cases event <;> simp [Shows, hempty] at h

theorem take_of_shows (h : socket.Shows event) :
    socket.take.1 = some (event.outcome socket.name) := by
  have hend : ∀ error, [none] <+: socket.queue ∧ socket.stream = .ended error →
      socket.take.1 = some (Event.outcome socket.name (.loss error)) := by
    rintro error ⟨⟨rest, hqueue⟩, hstream⟩
    rw [take, ← hqueue]
    show some socket.atEnd = _
    unfold atEnd endError?
    rw [hstream]
    cases error <;> rfl
  cases event with
  | datagram datagram =>
    obtain ⟨rest, hqueue⟩ := h
    rw [take, ← hqueue]
    rfl
  | failure error => exact hend (some error) h
  | loss error => exact hend error h

end Socket

namespace Timeline

variable {t u : Timeline} {limit : Option Instant} {time : Instant} {link : Nat}
  {before later : List (Instant × Event)} {event : Event}

/-! ## Refusals -/

theorem arrive_refusal_frame (t : Timeline) {delivery : Delivery}
    (h : delivery.event.isRefusal = true) : ∃ log, t.arrive delivery = { t with log } := by
  rw [arrive]
  split
  · split
    next error hevent =>
      rw [hevent] at h
      cases h
    next =>
      have hsame : t.handle delivery.event = (t.note (t.socket.handle delivery.event).1).use
          (t.socket.handle delivery.event).2 := rfl
      rw [hsame, Socket.handle_of_isRefusal h]
      exact ⟨_, rfl⟩
  · exact ⟨t.log, rfl⟩

theorem deliver_refusal_frame (t : Timeline) (delivery : Delivery)
    (h : delivery.event.isRefusal = true) :
    ∃ now turn log, t.deliver delivery = { t with now, turn, log } := by
  obtain ⟨log, harrive⟩ :=
    arrive_refusal_frame (t.networkAt (t.instantOf delivery.time)) h
  rw [deliver_eq, harrive, networkAt_eq]
  exact ⟨_, _, log, rfl⟩

theorem foldl_deliver_refusals (t : Timeline) (link : Nat)
    (h : ∀ answer ∈ before, answer.2.isRefusal = true) :
    ∃ now turn log, (before.map (onTheWay link)).foldl deliver t = { t with now, turn, log } := by
  induction before generalizing t with
  | nil => exact ⟨t.now, t.turn, t.log, rfl⟩
  | cons answer rest ih =>
    obtain ⟨now, turn, log, hfirst⟩ :=
      deliver_refusal_frame t (onTheWay link answer) (h answer List.mem_cons_self)
    rw [List.map_cons, List.foldl_cons, hfirst]
    exact ih _ fun other hmem => h other (List.mem_cons_of_mem _ hmem)

/-! ## The wait -/

theorem waitFrom_of_ready (limit : Option Instant) (agenda : List Delivery)
    (h : t.isReady = true) : t.waitFrom limit agenda = (.ready, t.resume agenda) := by
  cases agenda with
  | nil => rw [waitFrom, if_pos h]
  | cons delivery rest =>
    unfold waitFrom
    exact if_pos h

theorem waitFrom_cons_of_isInTime {delivery : Delivery} (rest : List Delivery)
    (hready : t.isReady = false) (htime : t.isInTime limit delivery.time = true) :
    t.waitFrom limit (delivery :: rest) = (t.deliver delivery).waitFrom limit rest := by
  rw [waitFrom]
  simp only [hready, htime, Bool.false_eq_true, if_false, if_true]

theorem waitFrom_of_late {agenda : List Delivery} (hready : t.isReady = false)
    (hlate : ∀ delivery ∈ agenda.head?, t.isInTime limit delivery.time = false) :
    t.waitFrom limit agenda = t.giveUp limit agenda := by
  cases agenda with
  | nil =>
    rw [waitFrom]
    simp only [hready, Bool.false_eq_true, if_false]
  | cons delivery rest =>
    rw [waitFrom]
    simp only [hready, hlate delivery rfl, Bool.false_eq_true, if_false]

/-- Refusals do not end a wait. -/
theorem waitFrom_refusals (agenda : List Delivery) (hready : t.isReady = false)
    (hrefusals : ∀ answer ∈ before, answer.2.isRefusal = true)
    (htime : ∀ answer ∈ before, t.isInTime limit answer.1 = true) :
    t.waitFrom limit (before.map (onTheWay link) ++ agenda) =
      ((before.map (onTheWay link)).foldl deliver t).waitFrom limit agenda := by
  induction before generalizing t with
  | nil => rfl
  | cons answer rest ih =>
    obtain ⟨now, turn, log, hfirst⟩ :=
      deliver_refusal_frame t (onTheWay link answer) (hrefusals answer List.mem_cons_self)
    have hlater := fun (other : Instant × Event) (hmem : other ∈ rest) =>
      List.mem_cons_of_mem answer hmem
    rw [List.map_cons, List.cons_append, List.foldl_cons,
      waitFrom_cons_of_isInTime _ hready (htime answer List.mem_cons_self)]
    refine ih ?_ (fun other hmem => hrefusals other (hlater other hmem)) ?_
    · rw [hfirst]
      exact hready
    · intro other hmem
      rw [hfirst]
      exact htime other (hlater other hmem)

/-- The first event that is no refusal ends the wait, if it comes in time. -/
theorem waitFrom_found (later : List (Instant × Event)) (hready : t.isReady = false)
    (hconnected : t.isConnected link = true)
    (hrefusals : ∀ answer ∈ before, answer.2.isRefusal = true)
    (htimes : ∀ answer ∈ before, t.isInTime limit answer.1 = true)
    (htime : t.isInTime limit time = true) (hqueue : (t.socket.handle event).2.queue ≠ []) :
    ∃ s, s = ((before.map (onTheWay link)).foldl deliver t).deliver (onTheWay link (time, event)) ∧
      s.socket = (t.socket.handle event).2 ∧
      t.waitFrom limit ((before ++ (time, event) :: later).map (onTheWay link)) =
        (.ready, s.resume (later.map (onTheWay link))) := by
  obtain ⟨now, turn, log, hpassed⟩ := foldl_deliver_refusals t link hrefusals
  have hsocket : (((before.map (onTheWay link)).foldl deliver t).deliver
      (onTheWay link (time, event))).socket = (t.socket.handle event).2 := by
    rw [hpassed, deliver_eq, socket_arrive, networkAt_eq]
    exact if_pos hconnected
  refine ⟨_, rfl, hsocket, ?_⟩
  rw [List.map_append, List.map_cons, waitFrom_refusals _ hready hrefusals htimes,
    waitFrom_cons_of_isInTime, waitFrom_of_ready]
  · rw [isReady, hsocket]
    exact decide_eq_true hqueue
  · rw [hpassed]
    exact hready
  · rw [hpassed]
    exact htime

theorem isInTime_of_le {earlier : Instant} (hle : earlier ≤ time)
    (h : t.isInTime limit time = true) : t.isInTime limit earlier = true := by
  rw [isInTime, Bool.and_eq_true] at h ⊢
  constructor
  · cases limit with
    | none => rfl
    | some bound => exact decide_eq_true (Int.le_trans hle (of_decide_eq_true h.1))
  · cases hcancel : t.cancelAt with
    | none => rfl
    | some cancel =>
      rw [hcancel] at h
      exact decide_eq_true (Int.lt_of_le_of_lt hle (of_decide_eq_true h.2))

/-- Nothing but refusals comes in time. -/
def Misses (t : Timeline) (limit : Option Instant) (events : List (Instant × Event)) : Prop :=
  ∀ answer, events.find? (fun answer => !answer.2.isRefusal) = some answer →
    t.isInTime limit answer.1 = false

theorem Misses.isRefusal {events : List (Instant × Event)} (hlate : t.Misses limit events)
    (hordered : Schedule.IsOrdered Prod.fst events)
    {answer : Instant × Event} (hmem : answer ∈ events)
    (htime : t.isInTime limit answer.1 = true) : answer.2.isRefusal = true := by
  cases hrefusal : answer.2.isRefusal with
  | true => rfl
  | false =>
    cases hfirst : events.find? (fun answer => !answer.2.isRefusal) with
    | none =>
      have hnone := List.find?_eq_none.1 hfirst answer hmem
      rw [hrefusal] at hnone
      exact absurd rfl hnone
    | some first =>
      obtain ⟨-, before, later, rfl, hbefore⟩ := List.find?_eq_some_iff_append.1 hfirst
      have hle : first.1 ≤ answer.1 := by
        rcases List.mem_append.1 hmem with hold | hnew
        · have hearly := hbefore answer hold
          rw [hrefusal] at hearly
          cases hearly
        · rcases List.mem_cons.1 hnew with rfl | hafter
          · exact Int.le_refl _
          · exact (List.pairwise_cons.1 (List.pairwise_append.1 hordered).2.1).1 answer hafter
      have hfalse := hlate first hfirst
      rw [isInTime_of_le hle htime] at hfalse
      cases hfalse

/-- If nothing but refusals comes in time, the wait is given up. -/
theorem Misses.waitFrom {events : List (Instant × Event)} (hlate : t.Misses limit events)
    (link : Nat) (hready : t.isReady = false) (hordered : Schedule.IsOrdered Prod.fst events) :
    ∃ before later, events = before ++ later ∧
      (∀ answer ∈ before, answer.2.isRefusal = true ∧ t.isInTime limit answer.1 = true) ∧
      t.waitFrom limit (events.map (onTheWay link)) =
        ((before.map (onTheWay link)).foldl deliver t).giveUp limit
          (later.map (onTheWay link)) := by
  have hsplit := List.takeWhile_append_dropWhile
    (p := fun answer : Instant × Event => t.isInTime limit answer.1) (l := events)
  have hhead := List.head?_dropWhile_not
    (fun answer : Instant × Event => t.isInTime limit answer.1) events
  have htimes : ∀ answer ∈ events.takeWhile fun answer => t.isInTime limit answer.1,
      t.isInTime limit answer.1 = true :=
    List.all_eq_true.1 List.all_takeWhile
  generalize events.takeWhile (fun answer => t.isInTime limit answer.1) = before at hsplit htimes
  generalize events.dropWhile (fun answer => t.isInTime limit answer.1) = later at hsplit hhead
  subst hsplit
  have hrefusals : ∀ answer ∈ before, answer.2.isRefusal = true := fun answer hmem =>
    hlate.isRefusal hordered (List.mem_append_left later hmem) (htimes answer hmem)
  refine ⟨before, later, rfl, fun answer hmem => ⟨hrefusals answer hmem, htimes answer hmem⟩, ?_⟩
  obtain ⟨now, turn, log, hpassed⟩ := foldl_deliver_refusals t link hrefusals
  rw [List.map_append, waitFrom_refusals _ hready hrefusals htimes, waitFrom_of_late]
  · rw [hpassed]
    exact hready
  · intro delivery hdelivery
    rw [List.head?_map, Option.mem_def, Option.map_eq_some_iff] at hdelivery
    obtain ⟨answer, hanswer, rfl⟩ := hdelivery
    rw [hanswer] at hhead
    rw [hpassed]
    exact hhead

/-! ## Giving up -/

theorem instantOf_le {bound : Instant} (hnow : t.now ≤ bound) (htime : time ≤ bound) :
    t.instantOf time ≤ bound := by
  rw [instantOf]
  split
  · exact hnow
  · exact htime

/-- A wait that is over before it is cancelled ends when it is over. -/
theorem giveUp_timeUp (agenda : List Delivery) {bound : Instant} (hnow : t.now ≤ bound)
    (htime : time ≤ bound)
    (hcancel : ∀ cancel, t.cancelAt = some cancel → cancel.isDue bound = false) :
    ∃ u, t.giveUp (some time) agenda = (.timeUp, u) ∧ time.isDue u.now = true ∧
      u.now ≤ bound ∧ (u.now = t.now ∨ u.now = time) := by
  have hclock : ∀ u, u = (t.networkAt (t.instantOf time)).resume agenda →
      time.isDue u.now = true ∧ u.now ≤ bound ∧ (u.now = t.now ∨ u.now = time) := by
    rintro u rfl
    rw [now_resume]
    exact ⟨isDue_instantOf t time, now_instantOf_le hnow htime, now_instantOf_eq t time⟩
  unfold giveUp
  cases h : t.cancelAt with
  | none => exact ⟨_, rfl, hclock _ rfl⟩
  | some cancel =>
    have hlate := hcancel cancel h
    have hlt : bound < cancel := by
      by_contra hle
      rw [Instant.isDue_of_le (not_lt.1 hle)] at hlate
      cases hlate
    have hmin : min cancel time = time := min_eq_right (Int.le_trans htime (Int.le_of_lt hlt))
    have hnotdue : cancel.isDue (t.instantOf time) = false := by
      by_contra hdue
      have hdue := Bool.eq_true_of_not_eq_false hdue
      rw [Instant.isDue_mono hdue (instantOf_le hnow htime)] at hlate
      cases hlate
    dsimp only
    rw [hmin, if_neg (ne_true_of_eq_false hnotdue)]
    exact ⟨_, rfl, hclock _ rfl⟩

/-- A wait that is cancelled before it is over ends with that. -/
theorem giveUp_cancelled (agenda : List Delivery) {cancel bound : Instant}
    (hcancel : t.cancelAt = some cancel) (hlt : ∀ time, limit = some time → cancel < time)
    (hnow : t.now ≤ bound) (hbound : cancel ≤ bound) :
    ∃ u, t.giveUp limit agenda = (.cancelled, u) ∧ cancel.isDue u.now = true ∧
      u.now ≤ bound ∧ (u.now = t.now ∨ u.now = cancel) := by
  have hsame : (t.cancelled (t.instantOf cancel)).now = (t.networkAt (t.instantOf cancel)).now := by
    rw [now_cancelled, now_networkAt]
  have hreached : cancel.isDue (t.instantOf cancel) = true := by
    rw [instantOf]
    split
    next hnow => exact hnow
    next => exact Instant.isDue_of_le (Int.le_refl _)
  have hgiveUp : t.giveUp limit agenda =
      (.cancelled, (t.cancelled (t.instantOf cancel)).resume agenda) := by
    unfold giveUp
    rw [hcancel]
    cases limit with
    | none => rfl
    | some time =>
      dsimp only
      rw [min_eq_left (Int.le_of_lt (hlt time rfl)), if_pos hreached]
  rw [hgiveUp]
  refine ⟨_, rfl, ?_⟩
  rw [now_resume, hsame]
  exact ⟨isDue_instantOf t cancel, now_instantOf_le hnow hbound, now_instantOf_eq t cancel⟩

/-! ## What comes first -/

theorem Pass.queue_prefix (h : Pass t u) : t.socket.queue <+: u.socket.queue := by
  have harrive : ∀ (t : Timeline) (delivery : Delivery),
      t.socket.queue <+: (t.arrive delivery).socket.queue := by
    intro t delivery
    rw [socket_arrive]
    split
    · exact Socket.queue_prefix_handle _ _
    · exact List.prefix_refl _
  cases h with
  | clock | callDue => exact List.prefix_refl _
  | called delivery rest => exact harrive (t.withCalled rest) delivery
  | agenda delivery rest => exact harrive (t.withAgenda rest) delivery

theorem Passes.queue_prefix (h : Passes t u) : t.socket.queue <+: u.socket.queue := by
  induction h with
  | refl => exact List.prefix_refl _
  | tail _ hlast ih => exact ih.trans hlast.queue_prefix

theorem Passes.shows (h : Passes t u) (hshows : t.socket.Shows event) :
    u.socket.Shows event := by
  have hqueue := h.queue_prefix
  cases event with
  | datagram datagram => exact hshows.trans hqueue
  | failure error => exact ⟨hshows.1.trans hqueue, h.moves.ended hshows.2⟩
  | loss error => exact ⟨hshows.1.trans hqueue, h.moves.ended hshows.2⟩

theorem takeReady_of_shows (h : t.socket.Shows event) :
    t.takeReady = (event.outcome t.socket.name, t.take.2) := by
  have hfound : t.take.1 = some (event.outcome t.socket.name) := Socket.take_of_shows h
  rw [takeReady_eq, hfound]
  rfl

/-! ## Receiving -/

variable {events : List (Instant × Event)} {answer : Instant × Event}
  {length : Option Span}

/-- What a wait comes to. -/
def afterWait (waited : Wake × Timeline) : Outcome (Option Datagram) :=
  match waited with
  | (.ready, t) => t.takeReady
  | (.timeUp, t) => (.ok none, t)
  | (.cancelled, t) => (.error .cancelled, t)

/-- Nothing is in the queue of a connected socket, and these answers are on the way. -/
structure Awaits (link : Nat) (events : List (Instant × Event)) (t : Timeline) : Prop where
  queue : t.socket.queue = []
  stream : t.socket.stream = .flowing
  isConnected : t.isConnected link = true
  called : t.called = []
  agenda : t.agenda = events.map (onTheWay link)

/-- The clock has come to a time. It may have stood still before, at an event or at the start, if
the time was due then. -/
structure ClockAt (start : Instant) (events : List (Instant × Event)) (time now : Instant) :
    Prop where
  isDue : time.isDue now = true
  bound : now ≤ max start time
  place : now = time ∨ now = start ∨ ∃ event ∈ events, event.1 = now

/-- The program waited until a time was due. -/
structure Waited (t : Timeline) (events : List (Instant × Event)) (time : Instant)
    (u : Timeline) : Prop where
  moves : Moves t u
  clock : ClockAt t.now events time u.now

theorem ClockAt.start (start : Instant) (events : List (Instant × Event)) :
    ClockAt start events start start :=
  ⟨Instant.isDue_of_le (Int.le_refl _), le_max_left _ _, .inl rfl⟩

theorem now_foldl_onTheWay (t : Timeline) (link : Nat) (before : List (Instant × Event)) :
    ((before.map (onTheWay link)).foldl deliver t).now = t.now ∨
      ∃ event ∈ before, event.1 = ((before.map (onTheWay link)).foldl deliver t).now := by
  refine (now_foldl_deliver_eq _ t).imp_right ?_
  rintro ⟨delivery, hmem, htime⟩
  obtain ⟨event, hevent, rfl⟩ := List.mem_map.1 hmem
  exact ⟨event, hevent, htime⟩

/-- An event that is waited for moves the clock to its time, unless what came before has moved it
so near that it is due. -/
theorem clockAt_deliver (t : Timeline) (link : Nat) (event : Event)
    (later : List (Instant × Event)) (hle : ∀ other ∈ before, other.1 ≤ time) :
    ClockAt t.now (before ++ (time, event) :: later) time
      (((before.map (onTheWay link)).foldl deliver t).deliver
        (onTheWay link (time, event))).now := by
  have hpassed : ((before.map (onTheWay link)).foldl deliver t).now ≤ max t.now time := by
    refine now_foldl_deliver_le _ (le_max_left _ _) ?_
    intro delivery hmem
    obtain ⟨other, hother, rfl⟩ := List.mem_map.1 hmem
    exact Int.le_trans (hle other hother) (le_max_right _ _)
  have hplace := now_foldl_onTheWay t link before
  generalize (before.map (onTheWay link)).foldl deliver t = v at hpassed hplace ⊢
  rw [now_deliver]
  refine ⟨isDue_instantOf v time, now_instantOf_le hpassed (le_max_right _ _), ?_⟩
  rcases now_instantOf_eq v time with hstill | hmoved
  · refine .inr (hplace.imp (hstill.trans ·) ?_)
    rintro ⟨event, hmem, htime⟩
    exact ⟨event, List.mem_append_left _ hmem, htime.trans hstill.symm⟩
  · exact .inl hmoved

theorem Awaits.receive (h : Awaits link events t) (length : Option Span) :
    t.receive (.value length) = t.await length := by
  have htake : t.socket.take = (none, t.socket) := by
    rw [Socket.take]
    split
    next hqueue => simp [h.queue] at hqueue
    next hqueue => simp [h.queue] at hqueue
    next => simp [Socket.hasEnded, h.stream]
  rw [Timeline.receive, take, htake]
  rfl

theorem Awaits.isReady (h : Awaits link events t) : t.programTurn.isReady = false := by
  rw [Timeline.isReady, socket_programTurn, h.queue]
  decide

/-- Nobody waits for no time. -/
theorem receive_over (h : Awaits link events t) (hlength : isOver length = true) :
    t.receive (.value length) = (.ok none, t) := by
  rw [h.receive, await, if_pos hlength]

theorem Awaits.await (h : Awaits link events t) (hlength : isOver length = false) :
    t.await length = afterWait
      (t.programTurn.waitFrom (length.map t.now.after) (events.map (onTheWay link))) := by
  have hcalled : t.deliverCalled = t.programTurn := by
    rw [deliverCalled, h.called]
    show ({ t with called := [] }).programTurn = _
    rw [← h.called]
  rw [Timeline.await, if_neg (ne_true_of_eq_false hlength)]
  dsimp only
  rw [hcalled, if_neg (ne_true_of_eq_false h.isReady), wait, agenda_programTurn, h.agenda]
  rfl

theorem receive_found (h : Awaits link events t) (hlength : isOver length = false)
    (hordered : Schedule.IsOrdered Prod.fst events)
    (hfirst : events.find? (fun answer => !answer.2.isRefusal) = some answer)
    (htime : t.isInTime (length.map t.now.after) answer.1 = true) :
    ∃ u, t.receive (.value length) = (answer.2.outcome t.socket.name, u) ∧
      Waited t events answer.1 u := by
  obtain ⟨hevent, before, later, rfl, hbefore⟩ := List.find?_eq_some_iff_append.1 hfirst
  obtain ⟨time, event⟩ := answer
  have hmoves := moves_receive t (.value length)
  have hevent : event.isRefusal = false := by simpa using hevent
  have hrefusals : ∀ other ∈ before, other.2.isRefusal = true := by simpa using hbefore
  have hle : ∀ other ∈ before, other.1 ≤ time := fun other hmem =>
    (List.pairwise_append.1 hordered).2.2 other hmem _ List.mem_cons_self
  have hshows := Socket.shows_handle h.queue h.stream hevent
  obtain ⟨s, hs, hsocket, hwait⟩ := waitFrom_found later h.isReady
    (show t.programTurn.isConnected link = true from h.isConnected) hrefusals
    (fun other hmem => isInTime_of_le (hle other hmem) htime) htime hshows.queue_ne_nil
  have hpasses := passes_resume (later.map (onTheWay link)) s
  have hname : (s.resume (later.map (onTheWay link))).socket.name = t.socket.name := by
    rw [hpasses.moves.later.name]
    show s.socket.name = _
    rw [hsocket, Socket.name_handle, socket_programTurn]
  have hshown : (s.resume (later.map (onTheWay link))).socket.Shows event := by
    refine hpasses.shows ?_
    show s.socket.Shows event
    rw [hsocket]
    exact hshows
  rw [h.receive, h.await hlength, hwait] at hmoves ⊢
  dsimp only [afterWait] at hmoves ⊢
  rw [takeReady_of_shows hshown, hname] at hmoves ⊢
  refine ⟨_, rfl, hmoves, ?_⟩
  show ClockAt t.now _ time (s.resume _).now
  rw [now_resume, hs]
  exact clockAt_deliver t.programTurn link event later hle

/-- If nothing but refusals comes in time, the wait is given up with them behind it. -/
theorem receive_missed (h : Awaits link events t) (hlength : isOver length = false)
    (hordered : Schedule.IsOrdered Prod.fst events)
    (hlate : t.Misses (length.map t.now.after) events) :
    ∃ (u : Timeline) (agenda : List Delivery), u.cancelAt = t.cancelAt ∧
      (∀ bound, t.now ≤ bound → (∀ time, t.isInTime (length.map t.now.after) time = true →
        time ≤ bound) → u.now ≤ bound) ∧
      (u.now = t.now ∨ ∃ event ∈ events, event.1 = u.now) ∧
      t.receive (.value length) = afterWait (u.giveUp (length.map t.now.after) agenda) := by
  have hlate : t.programTurn.Misses (length.map t.now.after) events := hlate
  obtain ⟨before, later, hevents, hbefore, hwait⟩ := hlate.waitFrom link h.isReady hordered
  obtain ⟨now, turn, log, hpassed⟩ :=
    foldl_deliver_refusals t.programTurn link fun answer hmem => (hbefore answer hmem).1
  refine ⟨(before.map (onTheWay link)).foldl deliver t.programTurn, later.map (onTheWay link),
    ?_, ?_, ?_, ?_⟩
  · rw [hpassed]
    rfl
  · intro bound hnow htimes
    refine now_foldl_deliver_le _ hnow ?_
    intro delivery hmem
    obtain ⟨other, hother, rfl⟩ := List.mem_map.1 hmem
    exact htimes _ (hbefore other hother).2
  · refine (now_foldl_onTheWay t.programTurn link before).imp_right ?_
    rintro ⟨event, hmem, htime⟩
    exact ⟨event, hevents ▸ List.mem_append_left _ hmem, htime⟩
  · rw [h.receive, h.await hlength, hwait]

theorem receive_timeUp {deadline : Instant} (h : Awaits link events t)
    (hlength : isOver length = false) (hordered : Schedule.IsOrdered Prod.fst events)
    (hlate : t.Misses (length.map t.now.after) events)
    (hlimit : length.map t.now.after = some deadline)
    (hcancel : ∀ cancel, t.cancelAt = some cancel →
      cancel.isDue (max t.now deadline) = false) :
    ∃ u, t.receive (.value length) = (.ok none, u) ∧ Waited t events deadline u := by
  have hmoves := moves_receive t (.value length)
  obtain ⟨v, agenda, hsame, hnow, hplace, hreceive⟩ := receive_missed h hlength hordered hlate
  rw [hlimit] at hnow hreceive
  have hbound : v.now ≤ max t.now deadline := by
    refine hnow _ (le_max_left _ _) ?_
    intro time htime
    rw [isInTime, Bool.and_eq_true] at htime
    exact Int.le_trans (of_decide_eq_true htime.1) (le_max_right _ _)
  obtain ⟨u, hgiveUp, hdue, hu, hmoved⟩ :=
    giveUp_timeUp agenda hbound (le_max_right _ _) (fun cancel h => hcancel cancel (hsame ▸ h))
  rw [hreceive, hgiveUp] at hmoves ⊢
  refine ⟨u, rfl, hmoves, hdue, hu, ?_⟩
  rcases hmoved with hstill | hmoved
  · exact .inr (hstill ▸ hplace)
  · exact .inl hmoved

theorem receive_cancelled (h : Awaits link events t) (hlength : isOver length = false)
    (hordered : Schedule.IsOrdered Prod.fst events)
    (hlate : t.Misses (length.map t.now.after) events)
    {cancel : Instant} (hcancel : t.cancelAt = some cancel)
    (hlt : ∀ time, length.map t.now.after = some time → cancel < time) :
    ∃ u, t.receive (.value length) = (.error .cancelled, u) ∧
      Waited t events cancel u := by
  have hmoves := moves_receive t (.value length)
  obtain ⟨v, agenda, hsame, hnow, hplace, hreceive⟩ := receive_missed h hlength hordered hlate
  have hbound : v.now ≤ max t.now cancel := by
    refine hnow _ (le_max_left _ _) ?_
    intro time htime
    rw [isInTime, Bool.and_eq_true, hcancel] at htime
    exact Int.le_trans (Int.le_of_lt (of_decide_eq_true htime.2)) (le_max_right _ _)
  obtain ⟨u, hgiveUp, hdue, hu, hmoved⟩ :=
    giveUp_cancelled agenda (hsame.trans hcancel) hlt hbound (le_max_right _ _)
  rw [hreceive, hgiveUp] at hmoves ⊢
  refine ⟨u, rfl, hmoves, hdue, hu, ?_⟩
  rcases hmoved with hstill | hmoved
  · exact .inr (hstill ▸ hplace)
  · exact .inl hmoved

end Timeline

end SqlResolution
