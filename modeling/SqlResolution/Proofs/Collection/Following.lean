import SqlResolution.Proofs.Collection.Course
import SqlResolution.Proofs.Timeline.Log

/-!
# Collections follow their course

A collection waits from the instant at which it took its last datagram. The events that come in
meanwhile are gone through instant by instant, as in its course: refusals leave the wait as it
is; a burst that brings anything else ends it, and then the collection takes what has found room
before it waits again. So the invariant that carries the induction is about a wait that has
begun at one instant and has got to another.
-/

namespace SqlResolution

/-- More that was collected, behind some datagrams. -/
def Collected.behind (datagrams : List Datagram) (collected : Collected) : Collected :=
  { collected with datagrams := datagrams ++ collected.datagrams }

namespace Timeline

open Course

variable {t : Timeline} {limits : Limits} {endsAt : Option Instant} {datagrams : List Datagram}
  {cause : Option (Option OsError)}

/-! ## Taking -/

/-- What a collection makes of what its receiver gets. -/
def goOn (limits : Limits) (endsAt : Option Instant) (received : Outcome (Option Datagram)) :
    Collected :=
  match received with
  | (.error failure, after) => ⟨[], some failure, after⟩
  | (.ok none, after) => ⟨[], none, after⟩
  | (.ok (some datagram), after) => (awaitMany limits endsAt after).behind [datagram]

theorem awaitMany_eq (limits : Limits) (endsAt : Option Instant) (t : Timeline) :
    awaitMany limits endsAt t = goOn limits endsAt (t.awaitNext limits endsAt) := by
  rcases h : t.awaitNext limits endsAt with ⟨failure | _ | datagram, after⟩
  · exact awaitMany_of_error h
  · exact awaitMany_of_none h
  · exact awaitMany_of_some h

theorem moves_awaitMany (limits : Limits) (endsAt : Option Instant) (t : Timeline) :
    Moves t (awaitMany limits endsAt t).timeline := by
  fun_induction awaitMany limits endsAt t with
  | case1 t failure after hnext =>
    have hmoves := moves_awaitNext t limits endsAt
    rwa [hnext] at hmoves
  | case2 t after hnext =>
    have hmoves := moves_awaitNext t limits endsAt
    rwa [hnext] at hmoves
  | case3 t datagram after hnext hpending rest ih =>
    have hmoves := moves_awaitNext t limits endsAt
    rw [hnext] at hmoves
    exact hmoves.trans ih

/-- Some of the whole time is left. -/
def IsLeft (endsAt : Option Instant) (t : Timeline) : Prop :=
  isOver (endsAt.map (·.since t.now)) = false

theorem IsLeft.awaitNext {timeout : Timeout} (h : t.IsLeft endsAt)
    (hinactivity : limits.inactivity = .value timeout) :
    t.awaitNext limits endsAt =
      t.receive (.value (timeout.within (endsAt.map (·.since t.now)))) := by
  rw [Timeline.awaitNext, if_neg (ne_true_of_eq_false h), hinactivity]

/-- Who finds something does not wait for it. -/
theorem receive_of_isSome (h : t.socket.take.1.isSome = true) (length : Setting (Option Span)) :
    t.receive length = t.takeReady := by
  obtain ⟨result, hresult⟩ := Option.isSome_iff_exists.1 h
  rw [receive, takeReady, take]
  rcases htake : t.socket.take with ⟨found, socket⟩
  rw [htake] at hresult
  rw [show found = some result from hresult]

theorem goOn_takeReady {timeout : Timeout} (hleft : t.IsLeft endsAt)
    (hinactivity : limits.inactivity = .value timeout) (hfound : t.socket.take.1.isSome = true) :
    goOn limits endsAt t.takeReady = awaitMany limits endsAt t := by
  rw [awaitMany_eq, hleft.awaitNext hinactivity, receive_of_isSome hfound]

/-- The datagrams in the queue are taken one by one. -/
theorem awaitMany_drain {timeout : Timeout} (hleft : t.IsLeft endsAt)
    (hinactivity : limits.inactivity = .value timeout) (hholds : t.socket.Holds datagrams cause) :
    ∃ queue, { t.socket with queue }.Holds [] cause ∧
      awaitMany limits endsAt t =
        (awaitMany limits endsAt (t.use { t.socket with queue })).behind datagrams := by
  induction datagrams generalizing t with
  | nil => exact ⟨t.socket.queue, hholds, rfl⟩
  | cons datagram rest ih =>
    obtain ⟨marks, hqueue, hmarks⟩ := hholds.queue
    have htake : t.socket.take =
        (some (.ok (some datagram)), { t.socket with queue := rest.map some ++ marks }) := by
      rw [Socket.take, hqueue]
      rfl
    have hrest : ({ t.socket with queue := rest.map some ++ marks } : Socket).Holds rest cause :=
      ⟨⟨marks, rfl, hmarks⟩, hholds.stream⟩
    obtain ⟨queue, hlast, hdrained⟩ :=
      ih (t := t.use { t.socket with queue := rest.map some ++ marks }) hleft hrest
    refine ⟨queue, hlast, ?_⟩
    have htaken : t.takeReady = (.ok (some datagram), t.use { t.socket with
        queue := rest.map some ++ marks }) := by
      rw [takeReady, take, htake]
    rw [← goOn_takeReady hleft hinactivity (by rw [htake]; rfl), htaken]
    show (awaitMany limits endsAt (t.use _)).behind [datagram] = _
    rw [hdrained]
    rfl

/-- At the end of the stream a collection is over. -/
theorem awaitMany_of_ended {timeout : Timeout} {error : Option OsError}
    (hleft : t.IsLeft endsAt) (hinactivity : limits.inactivity = .value timeout)
    (hholds : t.socket.Holds [] (some error)) :
    ∃ after, after.now = t.now ∧ awaitMany limits endsAt t =
      ⟨[], error.map fun error => .transport (.receiveFailed t.socket.name error), after⟩ := by
  have hended : t.socket.hasEnded = true := by simp [Socket.hasEnded, hholds.stream]
  have htake : t.socket.take.1 = some t.socket.atEnd := by
    obtain ⟨marks, hqueue, hmarks, -⟩ := hholds.queue
    rw [Socket.take, hqueue]
    cases marks with
    | nil =>
      show (if t.socket.hasEnded = true then some t.socket.atEnd else none) = _
      rw [if_pos hended]
    | cons mark rest =>
      rw [hmarks mark List.mem_cons_self]
      rfl
  have htaken : t.takeReady = (t.socket.atEnd, t.use t.socket.take.2) := by
    rw [takeReady, take]
    rcases hsplit : t.socket.take with ⟨found, socket⟩
    rw [hsplit] at htake
    rw [show found = some t.socket.atEnd from htake]
  refine ⟨t.use t.socket.take.2, rfl, ?_⟩
  rw [← goOn_takeReady hleft hinactivity (by rw [htake]; rfl), htaken, Socket.atEnd,
    Socket.endError?, hholds.stream]
  cases error <;> rfl

/-! ## Waiting -/

variable {link here last : Nat} {name : SocketName} {start : Instant} {inactivity total : Int}
  {events : List (Nat × Event)} {later : List Nat} {length : Span}

/-- A collection has got to an instant, with these datagrams in its queue, and behind them the end
of the stream, if it has come. -/
structure IsAt (link : Nat) (name : SocketName) (start : Instant) (here : Nat)
    (datagrams : List Datagram) (cause : Option (Option OsError)) (t : Timeline) : Prop where
  holds : t.socket.Holds datagrams cause
  capacity : t.socket.capacity = Protocol.maxQueueSize
  name : t.socket.name = name
  isLive : t.IsLive link
  called : t.called = []
  cancelAt : t.cancelAt = none
  now : t.now = start.afterMillis here

/-- The collection has gone the way of its course. -/
structure Follows (inactivity total : Int) (start : Instant) (name : SocketName) (course : Course)
    (collected : Collected) : Prop where
  datagrams : collected.datagrams = course.datagrams
  failure : collected.failure =
    course.error?.map fun error => .transport (.receiveFailed name error)
  now : collected.timeline.now = course.clock inactivity total start

theorem IsAt.isReady (h : t.IsAt link name start here [] none) : t.isReady = false := by
  rw [Timeline.isReady, h.holds.queue_eq]
  rfl

theorem IsAt.isConnected (h : t.IsAt link name start here datagrams none) :
    t.isConnected link = true := by
  refine h.isLive.resolve_right ?_
  rw [h.holds.hasEnded_eq]
  exact Bool.false_ne_true

theorem IsAt.programTurn (h : t.IsAt link name start here datagrams cause) :
    t.programTurn.IsAt link name start here datagrams cause :=
  ⟨h.holds, h.capacity, h.name, h.isLive, h.called, h.cancelAt, h.now⟩

/-- In front of an empty queue a collection waits. -/
theorem IsAt.goOn_wait {timeout : Timeout} (h : t.IsAt link name start here [] none)
    {coming : List (Instant × Event)} (hagenda : t.agenda = coming.map (onTheWay link))
    (hleft : t.IsLeft endsAt) (hinactivity : limits.inactivity = .value timeout)
    (hlength : timeout.within (endsAt.map (·.since t.now)) = some length) (hpos : 0 < length) :
    awaitMany limits endsAt t = goOn limits endsAt (afterWait
      (t.programTurn.waitFrom (some (t.now.after length)) (coming.map (onTheWay link)))) := by
  have hawaits : Awaits link coming t :=
    ⟨h.holds.queue_eq, h.holds.stream, h.isConnected, h.called, hagenda⟩
  have hover : isOver (some length) = false := decide_eq_false (Int.not_le.2 hpos)
  rw [awaitMany_eq, hleft.awaitNext hinactivity, hlength, hawaits.receive, hawaits.await hover]
  rfl

/-- If nothing comes in time, the collection is over when the wait is. -/
theorem IsAt.silence (h : t.IsAt link name start here [] none) (limits : Limits)
    (endsAt : Option Instant) {time : Instant} {agenda : List Delivery}
    (hlate : ∀ delivery ∈ agenda.head?, time < delivery.time)
    (hbefore : t.now ≤ time) (hfine : time.isDue t.now = false) :
    ∃ after, after.now = time ∧
      goOn limits endsAt (afterWait (t.waitFrom (some time) agenda)) = ⟨[], none, after⟩ := by
  have hwait : t.waitFrom (some time) agenda = t.giveUp (some time) agenda := by
    refine waitFrom_of_late h.isReady fun delivery hmem => ?_
    rw [isInTime, Option.all_some, decide_eq_false (Int.not_le.2 (hlate delivery hmem)),
      Bool.false_and]
  have hgiveUp : t.giveUp (some time) agenda =
      (.timeUp, (t.networkAt (t.instantOf time)).resume agenda) := by
    unfold giveUp
    rw [h.cancelAt]
  refine ⟨_, ?_, by rw [hwait, hgiveUp]; rfl⟩
  rw [now_resume, now_networkAt, instantOf, if_neg (ne_true_of_eq_false hfine)]
  exact max_eq_right hbefore

/-! ## Instants -/

/-- An event at its instant. -/
def place (start : Instant) (event : Nat × Event) : Instant × Event :=
  (start.afterMillis event.1, event.2)

/-- What comes in at an instant. -/
def comingAt (start : Instant) (events : List (Nat × Event)) (instant : Nat) :
    List (Instant × Event) :=
  (Schedule.during Prod.fst events instant).map (place start)

/-- What comes in at these instants. -/
def coming (start : Instant) (events : List (Nat × Event)) (instants : List Nat) :
    List (Instant × Event) :=
  instants.flatMap (comingAt start events)

theorem fst_of_mem_comingAt {instant : Nat} {answer : Instant × Event}
    (h : answer ∈ comingAt start events instant) : answer.1 = start.afterMillis instant := by
  obtain ⟨event, hevent, rfl⟩ := List.mem_map.1 h
  show start.afterMillis event.1 = _
  rw [(Schedule.mem_during.1 hevent).2]

theorem snd_comingAt (start : Instant) (events : List (Nat × Event)) (instant : Nat) :
    (comingAt start events instant).map Prod.snd = burst events instant := by
  rw [comingAt, burst, List.map_map]
  rfl

/-- Of what comes in at an instant, a refusal brings nothing, and all else does. -/
theorem heard_of_comingAt_refusals {instant : Nat}
    (h : ∀ answer ∈ comingAt start events instant, answer.2.isRefusal = true) :
    Event.heard (burst events instant) = [] ∧ Event.ended? (burst events instant) = none := by
  refine Event.heard_of_refusals fun event hmem => ?_
  rw [← snd_comingAt start] at hmem
  obtain ⟨answer, hanswer, rfl⟩ := List.mem_map.1 hmem
  exact h answer hanswer

theorem heard_or_ended_of_comingAt {instant : Nat}
    (h : ∃ answer ∈ comingAt start events instant, answer.2.isRefusal = false) :
    Event.heard (burst events instant) ≠ [] ∨ Event.ended? (burst events instant) ≠ none := by
  obtain ⟨answer, hanswer, hrefusal⟩ := h
  refine Event.heard_or_ended hrefusal ?_
  rw [← snd_comingAt start]
  exact List.mem_map_of_mem hanswer

theorem comingAt_ne_nil (start : Instant) {instant : Nat}
    (h : instant ∈ Schedule.instants Prod.fst events) : comingAt start events instant ≠ [] := by
  obtain ⟨event, hevent, hinstant⟩ := Schedule.mem_instants.1 h
  exact List.ne_nil_of_mem (List.mem_map_of_mem (Schedule.mem_during.2 ⟨hevent, hinstant⟩))

/-- The clock moves to an instant, or has stood there before. -/
theorem now_instantOf (hfine : IsFine inactivity total events start) {instant : Nat}
    (hnow : t.now = start.afterMillis here) (hhere : here ∈ 0 :: events.map Prod.fst)
    (hinstant : instant ∈ 0 :: events.map Prod.fst) (hle : here ≤ instant) :
    (t.networkAt (t.instantOf (start.afterMillis instant))).now = start.afterMillis instant := by
  have hdue := hfine.due here hhere instant hinstant
  rw [now_networkAt, instantOf, hnow]
  split
  next h => rw [max_self, le_antisymm hle (hdue.1 h)]
  next h =>
    refine max_eq_right (le_of_lt (lt_of_not_ge fun hcome => h ?_))
    exact Instant.isDue_of_le hcome

/-- Refusals leave the wait as it is. -/
theorem IsAt.refusals (hfine : IsFine inactivity total events start) {instant : Nat}
    (h : t.IsAt link name start here [] none) (hhere : here ∈ 0 :: events.map Prod.fst)
    (hinstant : instant ∈ Schedule.instants Prod.fst events) (hle : here ≤ instant)
    (hrefusals : ∀ answer ∈ comingAt start events instant, answer.2.isRefusal = true) :
    (((comingAt start events instant).map (onTheWay link)).foldl deliver t).IsAt
      link name start instant [] none := by
  have hnow := now_foldl_deliver_burst t link (comingAt_ne_nil start hinstant)
    fun answer => fst_of_mem_comingAt
  rw [now_instantOf hfine h.now hhere (mem_of_mem_instants hinstant) hle] at hnow
  obtain ⟨now, turn, log, hpassed⟩ := foldl_deliver_refusals t link hrefusals
  rw [hpassed] at hnow ⊢
  exact ⟨h.holds, h.capacity, h.name, h.isLive, h.called, h.cancelAt, hnow⟩

/-- A burst that brings more than refusals ends the wait. -/
theorem IsAt.burst (hfine : IsFine inactivity total events start) {instant : Nat} {time : Instant}
    (h : t.IsAt link name start here [] none) (hhere : here ∈ 0 :: events.map Prod.fst)
    (hinstant : instant ∈ Schedule.instants Prod.fst events) (hle : here ≤ instant)
    (hlater : ∀ other ∈ later, instant < other ∧ other ∈ Schedule.instants Prod.fst events)
    (htime : start.afterMillis instant ≤ time)
    (hevent : ∃ answer ∈ comingAt start events instant, answer.2.isRefusal = false) :
    ∃ u, t.waitFrom (some time) ((coming start events (instant :: later)).map (onTheWay link)) =
        (.ready, u) ∧
      u.agenda = (coming start events later).map (onTheWay link) ∧
      u.IsAt link name start instant ((Event.heard (Course.burst events instant)).take room)
        (Event.ended? (Course.burst events instant)) := by
  have hsame : ∀ answer ∈ comingAt start events instant, answer.1 = start.afterMillis instant :=
    fun answer => fst_of_mem_comingAt
  have hinTime : t.isInTime (some time) (start.afterMillis instant) = true := by
    rw [isInTime, h.cancelAt, Option.all_some, Option.all_none, Bool.and_true]
    exact decide_eq_true htime
  have hclock := now_instantOf hfine h.now hhere (mem_of_mem_instants hinstant) hle
  have hnow := now_foldl_deliver_burst t link (comingAt_ne_nil start hinstant) hsame
  obtain ⟨hsocket, hlive⟩ := h.isLive.foldl_deliver (comingAt start events instant)
  obtain ⟨hcalled, hcancel⟩ :=
    foldl_deliver_keeps ((comingAt start events instant).map (onTheWay link)) t
  obtain ⟨queue, stream, received, hframe⟩ :=
    Socket.handleAll_frame t.socket (Course.burst events instant)
  have hroom : t.socket.capacity = (room : Int) := h.capacity
  have hholds := h.holds.handleAll (Course.burst events instant) hroom (by decide) (Nat.zero_le _)
  rw [snd_comingAt] at hsocket
  rw [hclock] at hnow
  rw [List.nil_append] at hholds
  refine ⟨_, waitFrom_burst h.holds h.isConnected hsame hinTime hevent ?_, rfl, ?_, ?_, ?_, hlive,
    hcalled.trans h.called, hcancel.trans h.cancelAt, hnow⟩
  · intro answer hmem
    have hmem := List.mem_of_mem_head? hmem
    obtain ⟨other, hother, hcome⟩ := List.mem_flatMap.1 hmem
    rw [hclock, fst_of_mem_comingAt hcome, Bool.eq_false_iff]
    intro hdue
    have hle := (hfine.due instant (mem_of_mem_instants hinstant) other
      (mem_of_mem_instants (hlater other hother).2)).1 hdue
    exact absurd (hlater other hother).1 (Nat.not_lt.2 hle)
  · show (((comingAt start events instant).map (onTheWay link)).foldl deliver t).socket.Holds _ _
    rw [hsocket]
    exact hholds
  · show (((comingAt start events instant).map (onTheWay link)).foldl deliver t).socket.capacity = _
    rw [hsocket, hframe]
    exact h.capacity
  · show (((comingAt start events instant).map (onTheWay link)).foldl deliver t).socket.name = _
    rw [hsocket, hframe]
    exact h.name

/-! ## The whole way -/

/-- A wait of some length has begun at one instant and has got to another, which is in time; these
instants are still to come. -/
structure Stage (inactivity total : Int) (events : List (Nat × Event)) (start : Instant)
    (last : Nat) (length : Span) (here : Nat) (later : List Nat) : Prop where
  place : here ∈ 0 :: events.map Prod.fst
  le : last ≤ here
  before : here < min (last + inactivity) total
  wait : Course.wait inactivity total start last = some length
  divides : ∀ instant ∈ 0 :: events.map Prod.fst,
    Divides inactivity total start last length instant
  ahead : ∀ instant ∈ later, here ≤ instant ∧ instant ∈ Schedule.instants Prod.fst events
  sorted : later.Pairwise (· < ·)
  waits : ∀ wait ∈ (walk inactivity total events last later).waits,
    wait ∈ (whole inactivity total events).waits

section Stages

variable {instant : Nat}

theorem Stage.later_cons
    (h : Stage inactivity total events start last length here (instant :: later)) :
    ∀ other ∈ later, instant < other ∧ other ∈ Schedule.instants Prod.fst events :=
  fun other hmem => ⟨(List.pairwise_cons.1 h.sorted).1 other hmem,
    (h.ahead other (List.mem_cons_of_mem _ hmem)).2⟩

/-- After an instant that has changed nothing the wait has got to it. -/
theorem Stage.pass (h : Stage inactivity total events start last length here (instant :: later))
    (hearly : ¬(last + inactivity ≤ instant ∨ total ≤ instant))
    (hheard : Event.heard (Course.burst events instant) = [])
    (hended : Event.ended? (Course.burst events instant) = none) :
    Stage inactivity total events start last length instant later where
  place := mem_of_mem_instants (h.ahead instant List.mem_cons_self).2
  le := Nat.le_trans h.le (h.ahead instant List.mem_cons_self).1
  before := by omega
  wait := h.wait
  divides := h.divides
  ahead := fun other hmem => ⟨Nat.le_of_lt (h.later_cons other hmem).1, (h.later_cons other hmem).2⟩
  sorted := (List.pairwise_cons.1 h.sorted).2
  waits := by
    have hwaits := h.waits
    rwa [walk_pass later hearly hheard hended] at hwaits

/-- After datagrams were taken another wait begins. -/
theorem Stage.take (h : Stage inactivity total events start last length here (instant :: later))
    (hfine : IsFine inactivity total events start) (hinactive : 0 < inactivity)
    (hearly : ¬(last + inactivity ≤ instant ∨ total ≤ instant))
    (hheard : Event.heard (Course.burst events instant) ≠ [])
    (hended : Event.ended? (Course.burst events instant) = none) :
    ∃ length, 0 < length ∧
      Stage inactivity total events start instant length instant later := by
  have hwaits := h.waits
  rw [walk_take later hearly hheard hended] at hwaits
  obtain ⟨length, hlength, hpos, hdivides⟩ :=
    hfine.wait instant (hwaits instant List.mem_cons_self) hinactive (by omega)
  refine ⟨length, hpos, ?_⟩
  exact {
    place := mem_of_mem_instants (h.ahead instant List.mem_cons_self).2
    le := Nat.le_refl _
    before := by omega
    wait := hlength
    divides := hdivides
    ahead := fun other hmem =>
      ⟨Nat.le_of_lt (h.later_cons other hmem).1, (h.later_cons other hmem).2⟩
    sorted := (List.pairwise_cons.1 h.sorted).2
    waits := fun wait hmem => hwaits wait (List.mem_cons_of_mem _ hmem) }

end Stages

/-- The end of the whole time, from the start. -/
def endOfMillis (start : Instant) (total : Int) : Option Instant :=
  (Timeout.ofMillis total).deadline start

theorem IsAt.isLeft (h : t.IsAt link name start here datagrams cause)
    (hfine : IsFine inactivity total events start) (hhere : here ∈ 0 :: events.map Prod.fst)
    (hlt : here < total) : t.IsLeft (endOfMillis start total) := by
  rw [IsLeft, h.now]
  exact hfine.left here hhere hlt

/-- A collection that has got to its last wait ends with it. -/
theorem IsAt.follows_silence {agenda : List Delivery} {course : Course}
    (h : t.IsAt link name start here [] none)
    (hstage : Stage inactivity total events start last length here later)
    (hinactive : 0 < inactivity)
    (hlate : ∀ delivery ∈ agenda.head?, (start.afterMillis last).after length < delivery.time)
    (hcourse : course = ⟨[], [], .silence last⟩) :
    Follows inactivity total start name course
      (goOn limits endsAt (afterWait
        (t.waitFrom (some ((start.afterMillis last).after length)) agenda))) := by
  obtain ⟨hbefore, hfine⟩ := (hstage.divides here hstage.place).early hstage.before
  rw [← h.now] at hbefore hfine
  obtain ⟨after, hnow, hover⟩ := h.silence limits endsAt hlate hbefore hfine
  have hwait : 0 < inactivity ∧ (last : Int) < total := by
    have hle := hstage.le
    have hbefore := hstage.before
    exact ⟨hinactive, by omega⟩
  rw [hover, hcourse]
  refine ⟨rfl, rfl, ?_⟩
  rw [clock]
  dsimp only
  rw [if_pos hwait, hstage.wait]
  exact hnow

theorem coming_cons (start : Instant) (events : List (Nat × Event)) (instant : Nat)
    (later : List Nat) :
    (coming start events (instant :: later)).map (onTheWay link) =
      (comingAt start events instant).map (onTheWay link) ++
        (coming start events later).map (onTheWay link) := by
  rw [coming, List.flatMap_cons, List.map_append]
  rfl

theorem time_of_mem_head? {instant : Nat} (hinstant : instant ∈ Schedule.instants Prod.fst events)
    {delivery : Delivery}
    (h : delivery ∈ ((coming start events (instant :: later)).map (onTheWay link)).head?) :
    delivery.time = start.afterMillis instant := by
  have hne := comingAt_ne_nil start hinstant
  rw [coming_cons, List.head?_append_of_ne_nil _ (by simpa using hne)] at h
  obtain ⟨answer, hanswer, rfl⟩ := List.mem_map.1 (List.mem_of_mem_head? h)
  exact fst_of_mem_comingAt hanswer

theorem IsAt.drained (h : t.IsAt link name start here datagrams cause)
    {queue : List (Option Datagram)} (hholds : { t.socket with queue }.Holds [] cause) :
    (t.use { t.socket with queue }).IsAt link name start here [] cause :=
  ⟨hholds, h.capacity, h.name, h.isLive, h.called, h.cancelAt, h.now⟩

/-- What a burst has brought is taken, and the collection stands in front of an empty queue
again. -/
theorem IsAt.takes {instant : Nat} (hfine : IsFine inactivity total events start)
    (hinactivity : limits.inactivity = .value (.ofMillis inactivity))
    (h : t.IsAt link name start here [] none)
    (hstage : Stage inactivity total events start last length here (instant :: later))
    (hearly : ¬(last + inactivity ≤ instant ∨ total ≤ instant))
    (hevent : ∃ answer ∈ comingAt start events instant, answer.2.isRefusal = false) :
    ∃ u, u.IsAt link name start instant [] (Event.ended? (Course.burst events instant)) ∧
      u.agenda = (coming start events later).map (onTheWay link) ∧
      goOn limits (endOfMillis start total) (afterWait
          (t.waitFrom (some ((start.afterMillis last).after length))
            ((coming start events (instant :: later)).map (onTheWay link)))) =
        (awaitMany limits (endOfMillis start total) u).behind
          ((Event.heard (Course.burst events instant)).take room) := by
  obtain ⟨hle, hinstant⟩ := hstage.ahead instant List.mem_cons_self
  have hplace := mem_of_mem_instants hinstant
  obtain ⟨hintime, -⟩ := (hstage.divides instant hplace).early (by omega)
  obtain ⟨u, hwait, hagenda, hat⟩ :=
    h.burst hfine hstage.place hinstant hle hstage.later_cons hintime hevent
  have hleft := hat.isLeft hfine hplace (by omega : (instant : Int) < total)
  have hsome : (Event.heard (Course.burst events instant)).take room ≠ [] ∨
      Event.ended? (Course.burst events instant) ≠ none :=
    (heard_or_ended_of_comingAt hevent).imp_left fun hne htake =>
      (List.take_eq_nil_iff.1 htake).elim (by decide) hne
  obtain ⟨queue, hholds, hdrain⟩ := awaitMany_drain hleft hinactivity hat.holds
  refine ⟨_, hat.drained hholds, hagenda, ?_⟩
  rw [hwait, afterWait, goOn_takeReady hleft hinactivity (hat.holds.isSome_take hsome), hdrain]

/-- A collection follows its course to the end of the stream. -/
theorem IsAt.follows_ended {instant : Nat} {error : Option OsError} {waits : List Nat}
    (hfine : IsFine inactivity total events start)
    (hinactivity : limits.inactivity = .value (.ofMillis inactivity))
    (h : t.IsAt link name start instant [] (some error))
    (hplace : instant ∈ 0 :: events.map Prod.fst) (hlt : instant < total) :
    Follows inactivity total start name ⟨datagrams, waits, .ended instant error⟩
      ((awaitMany limits (endOfMillis start total) t).behind datagrams) := by
  obtain ⟨after, hnow, hover⟩ :=
    awaitMany_of_ended (h.isLeft hfine hplace hlt) hinactivity h.holds
  rw [hover, h.name]
  exact ⟨List.append_nil _, rfl, hnow.trans h.now⟩

theorem Follows.behind {course : Course} {collected : Collected} {waits : List Nat}
    (h : Follows inactivity total start name course collected) (datagrams : List Datagram) :
    Follows inactivity total start name
      ⟨datagrams ++ course.datagrams, waits, course.ending⟩ (collected.behind datagrams) :=
  ⟨congrArg (datagrams ++ ·) h.datagrams, h.failure, h.now⟩

/-- A collection that waits goes the way of its course. -/
theorem IsAt.follows (hfine : IsFine inactivity total events start) (hinactive : 0 < inactivity)
    (hinactivity : limits.inactivity = .value (.ofMillis inactivity))
    (h : t.IsAt link name start here [] none)
    (hstage : Stage inactivity total events start last length here later) :
    Follows inactivity total start name (walk inactivity total events last later)
      (goOn limits (endOfMillis start total) (afterWait
        (t.waitFrom (some ((start.afterMillis last).after length))
          ((coming start events later).map (onTheWay link))))) := by
  induction later generalizing t here last length with
  | nil => exact h.follows_silence hstage hinactive (by simp [coming]) rfl
  | cons instant later ih =>
    obtain ⟨hle, hinstant⟩ := hstage.ahead instant List.mem_cons_self
    have hplace := mem_of_mem_instants hinstant
    have hdivides := hstage.divides instant hplace
    by_cases hlate : last + inactivity ≤ instant ∨ total ≤ instant
    · refine h.follows_silence hstage hinactive ?_ (walk_late later hlate)
      intro delivery hmem
      rw [time_of_mem_head? hinstant hmem]
      exact hdivides.late (by omega)
    by_cases hevent : ∃ answer ∈ comingAt start events instant, answer.2.isRefusal = false
    · obtain ⟨u, hat, hagenda, htaken⟩ := h.takes hfine hinactivity hstage hlate hevent
      rw [htaken]
      cases hended : Event.ended? (Course.burst events instant) with
      | some error =>
        obtain ⟨waits, hcourse⟩ := walk_ended later hlate hended
        rw [hended] at hat
        rw [hcourse]
        exact hat.follows_ended hfine hinactivity hplace (by omega)
      | none =>
        have hheard : Event.heard (Course.burst events instant) ≠ [] :=
          (heard_or_ended_of_comingAt hevent).resolve_right (not_not.2 hended)
        obtain ⟨length', hpos, hnext⟩ := hstage.take hfine hinactive hlate hheard hended
        rw [hended] at hat
        have hleft := hat.isLeft hfine hplace (by omega : (instant : Int) < total)
        have hwait : (Timeout.ofMillis inactivity).within
            ((endOfMillis start total).map (·.since u.now)) = some length' := by
          rw [hat.now]
          exact hnext.wait
        rw [walk_take later hlate hheard hended, hat.goOn_wait hagenda hleft hinactivity hwait hpos,
          hat.now]
        exact (ih hat.programTurn hnext).behind _
    · have hrefusals : ∀ answer ∈ comingAt start events instant, answer.2.isRefusal = true :=
        fun answer hmem => by
          by_contra hother
          exact hevent ⟨answer, hmem, Bool.eq_false_iff.2 hother⟩
      obtain ⟨hheard, hended⟩ := heard_of_comingAt_refusals hrefusals
      rw [coming_cons, waitFrom_refusals _ h.isReady hrefusals, walk_pass later hlate hheard hended]
      · exact ih (h.refusals hfine hstage.place hinstant hle hrefusals)
          (hstage.pass hlate hheard hended)
      · intro answer hmem
        rw [fst_of_mem_comingAt hmem, isInTime, h.cancelAt, Option.all_some, Option.all_none,
          Bool.and_true]
        exact decide_eq_true (hdivides.early (by omega)).1

end Timeline

end SqlResolution
