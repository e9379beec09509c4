import SqlResolution.Proofs.Collection.Following

/-!
# What comes of a collection

A collection opens a socket, asks, takes what its course says, and closes the socket again. If
the stream ended with an error, only this remains; else the result is what was taken, and it may
be nothing.
-/

namespace SqlResolution

namespace Timeline

open Course

variable {t u : Timeline} {name : SocketName} {broadcast : Option Bool} {destination : Destination}
  {link : Nat} {start : Instant} {inactivity total : Int} {events : List (Nat × Event)}
  {limits : Limits}

/-! ## The beginning -/

theorem walk_of_nonpos (h : inactivity ≤ 0 ∨ total ≤ 0) (instants : List Nat) :
    walk inactivity total events 0 instants = ⟨[], [], .silence 0⟩ := by
  cases instants with
  | nil => rfl
  | cons instant later => exact walk_late later (by omega)

theorem follows_at_once (hnow : u.now = start.afterMillis 0) (h : inactivity ≤ 0 ∨ total ≤ 0) :
    Follows inactivity total start name (whole inactivity total events) ⟨[], none, u⟩ := by
  rw [whole, walk_of_nonpos h]
  refine ⟨rfl, rfl, hnow.trans ?_⟩
  rw [clock]
  dsimp only
  rw [if_neg (by omega)]

theorem afterMillis_zero (start : Instant) : start.afterMillis 0 = start.after 0 := by
  rw [Instant.afterMillis, show Span.ofMillis (0 : Nat) = 0 by decide]

/-- If the whole time is no time, nothing of it is left at the beginning. -/
theorem isOver_of_nonpos (hnow : t.now = start.afterMillis 0) (htotal : total ≤ 0) :
    isOver ((endOfMillis start total).map (·.since t.now)) = true := by
  obtain ⟨length, hlength, hle⟩ := Timeout.length_ofMillis_of_nonpos htotal
  have hend : start.after length ≤ t.now := by
    rw [hnow, afterMillis_zero]
    exact Instant.after_mono (Int.le_refl _) hle
  have hsince : (start.after length).since t.now ≤ 0 :=
    Number.Binary64.nearestUnits_mono (Int.sub_nonpos_of_le hend)
  rw [endOfMillis, Timeout.deadline, hlength, Option.map_some, Option.map_some, isOver,
    Option.any_some]
  exact decide_eq_true hsince

/-- To wait for no time is to go on at once. -/
theorem IsAt.receive_of_nonpos (h : t.IsAt link name start 0 [] none)
    {coming : List (Instant × Event)} (hagenda : t.agenda = coming.map (onTheWay link))
    (hinactive : inactivity ≤ 0) :
    t.receive (.value ((Timeout.ofMillis inactivity).within
      ((endOfMillis start total).map (·.since t.now)))) = (.ok none, t) := by
  have hawaits : Awaits link coming t :=
    ⟨h.holds.queue_eq, h.holds.stream, h.isConnected, h.called, hagenda⟩
  obtain ⟨length, hlength, hle⟩ := Timeout.length_ofMillis_of_nonpos hinactive
  refine receive_over hawaits ?_
  rw [Timeout.within_of_length _ hlength, isOver, Option.any_some,
    decide_eq_true_iff]
  cases (endOfMillis start total).map (·.since t.now) with
  | none => exact hle
  | some remaining => exact Int.le_trans (min_le_left _ _) hle

/-- A collection whose question is out follows its course. -/
theorem IsAt.follows_whole (hfine : IsFine inactivity total events start)
    (hinactivity : limits.inactivity = .value (.ofMillis inactivity))
    (h : t.IsAt link name start 0 [] none)
    (hagenda : t.agenda =
      (coming start events (Schedule.instants Prod.fst events)).map (onTheWay link)) :
    Follows inactivity total start name (whole inactivity total events)
      (awaitMany limits (endOfMillis start total) t) := by
  by_cases htotal : total ≤ 0
  · have hnext : t.awaitNext limits (endOfMillis start total) = (.ok none,
        t.note [.waitExhausted t.socket.name (limits.total.textBy Timeout.text)]) := by
      rw [awaitNext, if_pos (isOver_of_nonpos h.now htotal)]
    rw [awaitMany_of_none hnext]
    exact follows_at_once h.now (.inr htotal)
  have hleft := h.isLeft hfine List.mem_cons_self (by omega : ((0 : Nat) : Int) < total)
  by_cases hinactive : inactivity ≤ 0
  · have hnext := hleft.awaitNext hinactivity
    rw [h.receive_of_nonpos hagenda hinactive] at hnext
    rw [awaitMany_of_none hnext]
    exact follows_at_once h.now (.inl hinactive)
  obtain ⟨length, hlength, hpos, hdivides⟩ :=
    hfine.wait 0 List.mem_cons_self (by omega) (by omega)
  have hwait : (Timeout.ofMillis inactivity).within
      ((endOfMillis start total).map (·.since t.now)) = some length := by
    rw [h.now]
    exact hlength
  have hstage : Stage inactivity total events start 0 length 0
      (Schedule.instants Prod.fst events) :=
    { place := List.mem_cons_self
      le := Nat.le_refl _
      before := by omega
      wait := hlength
      divides := hdivides
      ahead := fun instant hmem => ⟨Nat.zero_le _, hmem⟩
      sorted := Schedule.pairwise_instants events
      waits := fun wait hmem => List.mem_cons_of_mem _ hmem }
  have hfollows := h.programTurn.follows hfine (by omega) hinactivity hstage
  rw [h.goOn_wait hagenda hleft hinactivity hwait hpos, h.now]
  exact ⟨hfollows.datagrams, hfollows.failure, hfollows.now⟩

/-! ## The whole of it -/

/-- A reply that comes after so many milliseconds. -/
def replyOfMillis (reply : Nat × Answer) : Reply :=
  ⟨Span.ofMillis reply.1, reply.2⟩

/-- The event that a reply is for who asked the destination. -/
def eventOfMillis (destination : Destination) (reply : Nat × Answer) : Nat × Event :=
  (reply.1, reply.2.event destination.peer)

/-- Nothing is on the way yet, nothing will be cancelled, and the clock shows a number of double
precision. -/
structure IsQuiet (t : Timeline) : Prop where
  called : t.called = []
  agenda : t.agenda = []
  cancelAt : t.cancelAt = none
  shown : t.now.after 0 = t.now

/-- What came of a collection. -/
structure ComesOf (inactivity total : Int) (t : Timeline) (name : SocketName) (course : Course)
    (outcome : Outcome (List Datagram)) : Prop where
  result : outcome.1 = course.result name
  now : outcome.2.now = course.clock inactivity total t.now
  closes : ClosesAll t outcome.2

theorem answers_eq {replies : List (Nat × Answer)}
    (hreplies : t.network.repliesOf destination.host = replies.map replyOfMillis) :
    t.answers destination = (replies.map (eventOfMillis destination)).map (place t.now) := by
  rw [answers, hreplies, List.map_map, List.map_map]
  rfl

theorem coming_instants (start : Instant) (events : List (Nat × Event)) :
    coming start events (Schedule.instants Prod.fst events) =
      (Schedule.inOrder Prod.fst events).map (place start) := by
  rw [coming, Schedule.inOrder, List.map_flatMap]
  rfl

theorem place_le_place_iff (h : IsFine inactivity total events start) {a b : Nat × Event}
    (ha : a ∈ events) (hb : b ∈ events) : (place start a).1 ≤ (place start b).1 ↔ a.1 ≤ b.1 := by
  have hmem : ∀ event ∈ events, event.1 ∈ 0 :: events.map Prod.fst := fun event hevent =>
    List.mem_cons_of_mem _ (List.mem_map_of_mem hevent)
  have hdue : ∀ a ∈ events, ∀ b ∈ events, (place start a).1 ≤ (place start b).1 → a.1 ≤ b.1 :=
    fun a ha b hb hle => (h.due b.1 (hmem b hb) a.1 (hmem a ha)).1 (Instant.isDue_of_le hle)
  constructor
  · exact hdue a ha b hb
  · intro hle
    by_contra hlt
    have hback := hdue b hb a ha (le_of_lt (not_le.1 hlt))
    refine hlt (le_of_eq ?_)
    rw [place, place, le_antisymm hle hback]

/-- Put in order by the clock, the answers are in the order of the course. -/
theorem inOrder_place (h : IsFine inactivity total events start) :
    (Schedule.inOrder Prod.fst (events.map (place start))).map (onTheWay link) =
      (coming start events (Schedule.instants Prod.fst events)).map (onTheWay link) := by
  have hclock := Schedule.foldl_insert_eq Prod.fst (onTheWay link) (events.map (place start))
    fun _ _ _ _ => Iff.rfl
  have hcourse := Schedule.foldl_insert_eq Prod.fst (fun event => onTheWay link (place start event))
    events fun a ha b hb => place_le_place_iff h ha hb
  rw [coming_instants, ← hclock, List.map_map, List.map_map]
  exact hcourse

/-- Once the question is out, the collection stands at the beginning of its course. -/
theorem isAt_of_asks (hquiet : t.IsQuiet) (hnew : t.socket.IsNew)
    (hcapacity : t.socket.capacity = Protocol.maxQueueSize) (hasks : Asks t destination u) :
    u.IsAt t.links.length t.socket.name t.now 0 [] none := by
  obtain ⟨broadcast, hsocket⟩ := hasks.socket
  refine ⟨⟨⟨[], ?_, by simp, fun _ => rfl⟩, ?_⟩, ?_, ?_, .inl hasks.isConnected,
    hasks.called.trans hquiet.called, hasks.cancelAt.trans hquiet.cancelAt, ?_⟩
  · rw [hsocket]
    exact hnew.queue
  · rw [hsocket]
    exact hnew.stream
  · rw [hsocket]
    exact hcapacity
  · rw [hsocket]
  · rw [hasks.now, afterMillis_zero, hquiet.shown]

/-- The time of the whole collection begins with the question. -/
theorem gather_of_asks (hasks : Asks t destination u)
    (htotal : limits.total = .value (.ofMillis total)) :
    u.gather .many limits = awaitMany limits (endOfMillis t.now total) u := by
  obtain ⟨broadcast, hsocket⟩ := hasks.socket
  unfold gather endOf
  rw [htotal, hsocket]
  rfl

/-- What was collected is handed out, and the socket is closed. -/
theorem Follows.comesOf {course : Course} {collected : Collected}
    (h : Follows inactivity total t.now name course collected)
    (hcloses : ClosesAll t collected.timeline.close) :
    ComesOf inactivity total t name course
      (match collected.failure with
        | some failure => .error failure
        | none => .ok collected.datagrams, collected.timeline.close) := by
  refine ⟨?_, (now_close _).trans h.now, hcloses⟩
  rw [h.failure, h.datagrams, result]
  cases course.error? <;> rfl

/-- What comes of a collection whose question is out. -/
theorem comesOf_of_asks {replies : List (Nat × Answer)} (limits : Limits) (hquiet : t.IsQuiet)
    (hnew : t.socket.IsNew) (hcapacity : t.socket.capacity = Protocol.maxQueueSize)
    (hreplies : t.network.repliesOf destination.host = replies.map replyOfMillis)
    (hfine : IsFine inactivity total (replies.map (eventOfMillis destination)) t.now)
    (hasks : Asks t destination u) (hinactivity : limits.inactivity = .value (.ofMillis inactivity))
    (htotal : limits.total = .value (.ofMillis total)) :
    ComesOf inactivity total t t.socket.name
      (whole inactivity total (replies.map (eventOfMillis destination)))
      (match (u.gather .many limits).failure with
        | some failure => .error failure
        | none => .ok (u.gather .many limits).datagrams,
        (u.gather .many limits).timeline.close) := by
  have hagenda := hasks.agenda
  rw [answers_eq hreplies, inOrder_place hfine] at hagenda
  have hat := isAt_of_asks hquiet hnew hcapacity hasks
  have hfollows := hat.follows_whole hfine hinactivity hagenda
  rw [gather_of_asks hasks htotal]
  obtain ⟨broadcast, hsocket⟩ := hasks.socket
  have hlater := (moves_awaitMany limits (endOfMillis t.now total) u).later
  refine hfollows.comesOf (closesAll_of_links hasks.links hlater.closedLinks ?_)
  rw [hlater.link, hsocket]

/-- A collection of many answers follows the course of the replies that are to come, on a clock
that is fine enough for it; and if all is over before long, and nothing happens at the very
instant at which a wait ends, the clock is fine enough and shows the right time at the end. -/
theorem collect_comesOf {replies : List (Nat × Answer)} (hquiet : t.IsQuiet)
    (hreach : t.network.reach name broadcast = .ok destination)
    (hreplies : t.network.repliesOf destination.host = replies.map replyOfMillis)
    (data : List UInt8) (response : Setting Timeout) (inactivity total : Int) :
    let events := replies.map (eventOfMillis destination)
    let course := whole inactivity total events
    (t.now.IsModerate → IsShort inactivity total events → HasNoTies inactivity total events →
      IsFine inactivity total events t.now ∧
        t.now.IsAbout 8 (course.time inactivity total) (course.clock inactivity total t.now)) ∧
    (IsFine inactivity total events t.now →
      ComesOf inactivity total t name course
        ((t.use (.new name broadcast Protocol.maxQueueSize)).collect data .many
          ⟨response, .value (.ofMillis inactivity), .value (.ofMillis total)⟩)) := by
  intro events course
  refine ⟨fun hmoderate hshort hties =>
    ⟨isFine hmoderate hshort hties, isAbout_clock hmoderate hshort⟩, fun hfine => ?_⟩
  have hfresh : (t.use (.new name broadcast Protocol.maxQueueSize)).IsQuiet :=
    ⟨hquiet.called, hquiet.agenda, hquiet.cancelAt, hquiet.shown⟩
  rcases openSocket_cases (t := t.use (.new name broadcast Protocol.maxQueueSize)) rfl with
    ⟨found, u, hopen, hopens, hfound⟩ | ⟨failure, u, hopen, -, hfailed⟩
  · rcases send_of_opens hopens hquiet.agenda data with ⟨v, hsend, hsent, hasks⟩ |
      ⟨error, hsend, hsent⟩
    · rw [hsend] at hfound
      obtain rfl : destination = found := Except.ok.inj (hreach.symm.trans hfound)
      have hcomes := comesOf_of_asks ⟨response, .value (.ofMillis inactivity),
        .value (.ofMillis total)⟩ hfresh (Socket.isNew_new _ _ _) rfl hreplies hfine hasks rfl rfl
      rw [collect, hopen]
      dsimp only
      rw [ask, hsent]
      dsimp only
      generalize v.gather .many _ = collected at hcomes ⊢
      obtain ⟨datagrams, failure, after⟩ := collected
      cases failure with
      | some failure => exact ⟨hcomes.result, hcomes.now, hcomes.closes⟩
      | none => exact ⟨hcomes.result, hcomes.now, hcomes.closes⟩
    · rw [hsend] at hfound
      cases hreach.symm.trans hfound
  · cases hreach.symm.trans hfailed

/-- Two hosts answer, one at once and one after another has refused; then the connection is lost. -/
def twoAnswers : List (Nat × Answer) :=
  [(900, .datagram (some ⟨"10.0.0.3", .value 1434⟩) [2]), (900, .loss none),
    (0, .datagram none [1]), (300, .failure ⟨111, "Connection refused"⟩)]

def answering : Timeline :=
  .new { Network.silent ⟨[], none, none⟩ with
    replies := [("10.0.0.2", twoAnswers.map replyOfMillis)] }

theorem collect_comesOf_answering :
    answering.IsQuiet ∧
    answering.network.reach ⟨"10.0.0.2", .value 1434⟩ (some false) =
      .ok ⟨.inet, "10.0.0.2", .value 1434⟩ ∧
    answering.network.repliesOf "10.0.0.2" = twoAnswers.map replyOfMillis ∧
    answering.now.IsModerate ∧
    IsShort 1000 5000 (twoAnswers.map (eventOfMillis ⟨.inet, "10.0.0.2", .value 1434⟩)) ∧
    HasNoTies 1000 5000 (twoAnswers.map (eventOfMillis ⟨.inet, "10.0.0.2", .value 1434⟩)) ∧
    ComesOf 1000 5000 answering ⟨"10.0.0.2", .value 1434⟩
      ⟨[⟨⟨"10.0.0.2", .value 1434⟩, [1]⟩, ⟨⟨"10.0.0.3", .value 1434⟩, [2]⟩], [0, 0, 900],
        .ended 900 none⟩
      ((answering.use (.new ⟨"10.0.0.2", .value 1434⟩ (some false) Protocol.maxQueueSize)).collect
        [2] .many ⟨.blank, .value (.ofMillis 1000), .value (.ofMillis 5000)⟩) := by
  have hquiet : answering.IsQuiet := ⟨rfl, rfl, rfl, by decide +kernel⟩
  have hreach : answering.network.reach ⟨"10.0.0.2", .value 1434⟩ (some false) =
      .ok ⟨.inet, "10.0.0.2", .value 1434⟩ := by decide +kernel
  have hreplies : answering.network.repliesOf "10.0.0.2" = twoAnswers.map replyOfMillis := rfl
  have hshort : IsShort 1000 5000
      (twoAnswers.map (eventOfMillis ⟨.inet, "10.0.0.2", .value 1434⟩)) :=
    ⟨by decide, by decide, by decide⟩
  have hties : HasNoTies 1000 5000
      (twoAnswers.map (eventOfMillis ⟨.inet, "10.0.0.2", .value 1434⟩)) := by
    unfold HasNoTies
    decide +kernel
  have hmoderate : answering.now.IsModerate := Instant.isModerate_zero
  have hcourse : whole 1000 5000
      (twoAnswers.map (eventOfMillis ⟨.inet, "10.0.0.2", .value 1434⟩)) =
      ⟨[⟨⟨"10.0.0.2", .value 1434⟩, [1]⟩, ⟨⟨"10.0.0.3", .value 1434⟩, [2]⟩], [0, 0, 900],
        .ended 900 none⟩ := by
    decide +kernel
  obtain ⟨hclock, hcomes⟩ := collect_comesOf hquiet hreach hreplies [2] .blank 1000 5000
  refine ⟨hquiet, hreach, hreplies, hmoderate, hshort, hties, ?_⟩
  rw [← hcourse]
  exact hcomes (hclock hmoderate hshort hties).1

end Timeline

end SqlResolution
