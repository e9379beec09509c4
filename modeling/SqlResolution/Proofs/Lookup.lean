import SqlResolution.Lookup
import SqlResolution.Proofs.Timeline.Waiting

/-!
# What becomes of a lookup

A lookup that has not been run comes to one of a few ends, and the network decides which. Its
request cannot be written; or the question does not get out; or the lookup waits, and then the
first event that is no refusal decides, unless the time is up or the lookup is cancelled before
that. In each case it is known what is handed out, over which states the lookup goes and when
it ends; and whatever it created is closed.
-/

namespace SqlResolution

namespace Lookup

open Timeline

variable {lookup : Lookup} {link : Nat} {events : List (Instant × Event)}
  {length : Option Span}

/-- How a lookup ends: with what, over which states, and when. -/
structure Ending where
  result : Except Failure Datagram
  passed : List State
  time : Instant
  deriving DecidableEq

namespace Ending

/-- The state in which the lookup is at the end. -/
def last (ending : Ending) : State :=
  match ending.result with
  | .ok _ => .completed
  | .error _ => .failed

end Ending

/-- The ending of a lookup to which nobody answers. -/
def unanswered (lookup : Lookup) (time : Instant) : Ending :=
  ⟨.error (.noResponse lookup.name (lookup.response.textBy Timeout.text)),
    [.requestSent, .awaitingOne, .timedOut], time⟩

/-- The ending of a lookup that is broken off while it waits. -/
def brokenOff (failure : Failure) (time : Instant) : Ending :=
  ⟨.error failure, [.requestSent, .awaitingOne], time⟩

/-- The ending of a lookup by the first event that is no refusal. -/
def endingBy (lookup : Lookup) (time : Instant) : Event → Ending
  | .datagram datagram => ⟨.ok datagram, [.requestSent, .awaitingOne], time⟩
  | .failure error => brokenOff (.transport (.receiveFailed lookup.name error)) time
  | .loss (some error) => brokenOff (.transport (.receiveFailed lookup.name error)) time
  | .loss none => lookup.unanswered time

/-- The ending of a lookup whose question is out, by the events that come, in their order. -/
def awaitedEnding (lookup : Lookup) (length : Option Span) (events : List (Instant × Event)) :
    Ending :=
  let start := lookup.timeline.now
  let deadline := length.map start.after
  let isBefore := fun time : Instant =>
    deadline.all (time < ·) && lookup.timeline.cancelAt.all (time < ·)
  if isOver length then lookup.unanswered start
  else
    match (events.find? fun event => !event.2.isRefusal).filter fun event => isBefore event.1 with
    | some (time, event) => lookup.endingBy time event
    | none =>
      match lookup.timeline.cancelAt.filter fun cancel => deadline.all (cancel < ·) with
      | some cancel => brokenOff .cancelled cancel
      | none => lookup.unanswered (deadline.getD start)

/-- The events that come to a lookup once its question is out, in their order. -/
def coming (lookup : Lookup) : List (Instant × Event) :=
  match lookup.timeline.network.reach lookup.name none with
  | .error _ => []
  | .ok destination => Schedule.inOrder Prod.fst (lookup.timeline.answers destination)

/-- The ending of a lookup that has not been run. -/
def ending (lookup : Lookup) (length : Option Span) : Ending :=
  let start := lookup.timeline.now
  match lookup.request.encode with
  | .error fault => ⟨.error (.encoding (.name fault)), [], start⟩
  | .ok _ =>
    match lookup.timeline.network.reach lookup.name none with
    | .error failure => ⟨.error failure, [], start⟩
    | .ok _ => lookup.awaitedEnding length lookup.coming

/-- Nothing happens at the very instant at which the time is up, and by then it is clear whether a
cancellation is due. Where the time is never up, something else ends the wait. -/
structure HasNoTies (lookup : Lookup) (length : Option Span) (events : List (Instant × Event)) :
    Prop where
  deadline : ∀ deadline, length.map lookup.timeline.now.after = some deadline →
    ∀ event ∈ events, event.1 ≠ deadline
  apart : ∀ deadline, length.map lookup.timeline.now.after = some deadline →
    ∀ cancel, lookup.timeline.cancelAt = some cancel →
      cancel < deadline ∨ cancel.isDue (max lookup.timeline.now deadline) = false
  ends : length = none → lookup.timeline.cancelAt ≠ none ∨ ∃ event ∈ events, !event.2.isRefusal

/-! ## Waiting -/

/-- The ending of a lookup by what its receiver gets. -/
def endingOf (lookup : Lookup) (time : Instant) : Except Failure (Option Datagram) → Ending
  | .ok (some datagram) => ⟨.ok datagram, [.requestSent, .awaitingOne], time⟩
  | .ok none => lookup.unanswered time
  | .error failure => brokenOff failure time

theorem endingBy_eq (lookup : Lookup) (time : Instant) (event : Event) :
    lookup.endingBy time event = lookup.endingOf time (event.outcome lookup.name) := by
  cases event with
  | datagram datagram => rfl
  | failure error => rfl
  | loss error => cases error <;> rfl

/-- The lookup has come to an ending, apart from the last change of its state. -/
structure ComesTo (lookup : Lookup) (events : List (Instant × Event)) (ending : Ending)
    (outcome : Except Failure Datagram × Lookup) : Prop where
  result : outcome.1 = ending.result
  states : outcome.2.timeline.states = lookup.timeline.states ++ ending.passed
  clock : ClockAt lookup.timeline.now events ending.time outcome.2.timeline.now

/-- The lookup while it waits. -/
def awaiting (lookup : Lookup) : Lookup :=
  (lookup.setState .requestSent).setState .awaitingOne

theorem states_setState (lookup : Lookup) (state : State) :
    (lookup.setState state).timeline.states = lookup.timeline.states ++ [state] :=
  states_note lookup.timeline _

theorem states_awaiting (lookup : Lookup) :
    lookup.awaiting.timeline.states = lookup.timeline.states ++ [.requestSent, .awaitingOne] := by
  rw [awaiting, states_setState, states_setState, List.append_assoc]
  rfl

/-- What a lookup makes of the answer that it awaited. -/
def settle (lookup : Lookup) (outcome : Outcome Datagram) : Except Failure Datagram × Lookup :=
  match outcome.1 with
  | .error (.noResponse ..) =>
    (outcome.1, { lookup with timeline := outcome.2 }.setState .timedOut)
  | _ => (outcome.1, { lookup with timeline := outcome.2 })

theorem await_eq (lookup : Lookup) :
    lookup.await = lookup.awaiting.settle (lookup.awaiting.timeline.awaitOne lookup.response) :=
  rfl

theorem settle_of_known {t : Timeline} {result : Except Failure Datagram}
    (h : ∀ name wait, result ≠ .error (.noResponse name wait)) :
    lookup.settle (result, t) = (result, { lookup with timeline := t }) := by
  unfold settle
  split
  next name wait hresult => exact absurd hresult (h name wait)
  next => rfl

/-- What a lookup makes of what its receiver gets. -/
theorem await_of_receive {received : Except Failure (Option Datagram)} {t : Timeline}
    {time : Instant} (hname : lookup.timeline.socket.name = lookup.name)
    (hknown : ∀ name wait, received ≠ .error (.noResponse name wait))
    (hreceive : lookup.awaiting.timeline.receive (lookup.response.map Timeout.length) =
      (received, t))
    (hwaited : Waited lookup.awaiting.timeline events time t) :
    ComesTo lookup events (lookup.endingOf time received) lookup.await ∧
      ∃ notices, lookup.await.2.timeline = t.note notices := by
  have hlater := hwaited.moves.later
  have hstates := hlater.states.trans lookup.states_awaiting
  have hnamed : t.socket.name = lookup.name := hlater.name.trans hname
  have hsilent : t = t.note [] := by
    rw [note, List.map_nil, List.append_nil]
  rw [await_eq]
  unfold awaitOne
  rw [hreceive]
  cases received with
  | ok found =>
    cases found with
    | some datagram =>
      dsimp only
      rw [settle_of_known (by simp)]
      exact ⟨⟨rfl, hstates, hwaited.clock⟩, [], hsilent⟩
    | none =>
      dsimp only
      rw [hnamed]
      refine ⟨⟨rfl, ?_, hwaited.clock⟩, _, rfl⟩
      show (Lookup.setState { lookup.awaiting with timeline := t } .timedOut).timeline.states = _
      rw [states_setState, hstates, List.append_assoc]
      rfl
  | error failure =>
    dsimp only
    rw [settle_of_known (by simpa using hknown)]
    exact ⟨⟨rfl, hstates, hwaited.clock⟩, [], hsilent⟩

theorem awaits_awaiting (h : Awaits link events lookup.timeline) :
    Awaits link events lookup.awaiting.timeline :=
  ⟨h.queue, h.stream, h.isConnected, h.called, h.agenda⟩

/-- The question is out, and the timer of the lookup has begun. -/
structure IsWaiting (link : Nat) (events : List (Instant × Event)) (length : Option Span)
    (lookup : Lookup) : Prop where
  awaits : Awaits link events lookup.timeline
  name : lookup.timeline.socket.name = lookup.name
  ordered : Schedule.IsOrdered Prod.fst events
  wait : lookup.response.map Timeout.length = .value length

theorem IsWaiting.comesTo (h : lookup.IsWaiting link events length)
    (received : Except Failure (Option Datagram)) {time : Instant}
    (hknown : ∀ name wait, received ≠ .error (.noResponse name wait))
    (hreceive : ∃ t, lookup.awaiting.timeline.receive (.value length) = (received, t) ∧
      Waited lookup.awaiting.timeline events time t) :
    ComesTo lookup events (lookup.endingOf time received) lookup.await ∧
      ∃ u notices, Moves lookup.awaiting.timeline u ∧ lookup.await.2.timeline = u.note notices := by
  obtain ⟨t, hreceive, hwaited⟩ := hreceive
  rw [← h.wait] at hreceive
  obtain ⟨hcomes, notices, htimeline⟩ := await_of_receive h.name hknown hreceive hwaited
  exact ⟨hcomes, t, notices, hwaited.moves, htimeline⟩

theorem outcome_ne_noResponse (name : SocketName) (event : Event) :
    ∀ other wait, event.outcome name ≠ .error (.noResponse other wait) := by
  intro other wait
  cases event with
  | datagram datagram => simp [Event.outcome]
  | failure error => simp [Event.outcome]
  | loss error => cases error <;> simp [Event.outcome]

/-- What is before the end of the wait is in time for it. -/
theorem isInTime_of_before {time : Instant}
    (h : ((length.map lookup.timeline.now.after).all (time < ·) &&
      lookup.timeline.cancelAt.all (time < ·)) = true) :
    lookup.timeline.isInTime (length.map lookup.timeline.now.after) time = true := by
  rw [Bool.and_eq_true] at h
  refine Bool.and_eq_true_iff.2 ⟨?_, h.2⟩
  cases hlimit : length.map lookup.timeline.now.after with
  | none => rfl
  | some deadline =>
    rw [hlimit] at h
    exact decide_eq_true (Int.le_of_lt (of_decide_eq_true h.1))

/-- What is not before the end of the wait is not in time for it. -/
theorem HasNoTies.isInTime_eq_false {time : Instant} {event : Event}
    (h : lookup.HasNoTies length events) (hmem : (time, event) ∈ events)
    (hnot : ¬((length.map lookup.timeline.now.after).all (time < ·) &&
      lookup.timeline.cancelAt.all (time < ·)) = true) :
    lookup.timeline.isInTime (length.map lookup.timeline.now.after) time = false := by
  by_contra htime
  have htime := Bool.eq_true_of_not_eq_false htime
  rw [isInTime, Bool.and_eq_true] at htime
  refine hnot (Bool.and_eq_true_iff.2 ⟨?_, htime.2⟩)
  cases hlimit : length.map lookup.timeline.now.after with
  | none => rfl
  | some deadline =>
    rw [hlimit] at htime
    have hle : time ≤ deadline := of_decide_eq_true htime.1
    exact decide_eq_true (lt_of_le_of_ne hle (h.deadline deadline hlimit _ hmem))

/-- A wait that nothing ends before its end has one. -/
theorem HasNoTies.exists_deadline (h : lookup.HasNoTies length events)
    (hlate : lookup.timeline.Misses (length.map lookup.timeline.now.after) events)
    (hlast : ∀ cancel, lookup.timeline.cancelAt = some cancel →
      ¬(length.map lookup.timeline.now.after).all (cancel < ·) = true) :
    ∃ deadline, length.map lookup.timeline.now.after = some deadline := by
  cases hlimit : length.map lookup.timeline.now.after with
  | some deadline => exact ⟨deadline, rfl⟩
  | none =>
    rw [hlimit] at hlate hlast
    have hnever : lookup.timeline.cancelAt = none :=
      Option.eq_none_iff_forall_ne_some.2 fun cancel hcancel => hlast cancel hcancel rfl
    rcases h.ends (Option.map_eq_none_iff.1 hlimit) with hcancel | ⟨answer, hmem, hevent⟩
    · exact absurd hnever hcancel
    · cases hfirst : events.find? (fun answer => !answer.2.isRefusal) with
      | none => exact absurd hevent (List.find?_eq_none.1 hfirst answer hmem)
      | some first =>
        have htime := hlate first hfirst
        rw [isInTime, hnever] at htime
        cases htime

/-- A lookup that waits comes to the ending that is due to it. -/
theorem IsWaiting.await (h : lookup.IsWaiting link events length)
    (hties : isOver length = false → lookup.HasNoTies length events) :
    ComesTo lookup events (lookup.awaitedEnding length events) lookup.await ∧
      ∃ u notices, Moves lookup.awaiting.timeline u ∧ lookup.await.2.timeline = u.note notices := by
  have hawaits := awaits_awaiting h.awaits
  unfold awaitedEnding
  dsimp only
  split
  next hover =>
    exact h.comesTo (.ok none) (by simp)
      ⟨_, receive_over hawaits hover, .refl _, .start _ _⟩
  next hover =>
    have hover := Bool.eq_false_of_not_eq_true hover
    have hties := hties hover
    split
    next time event hfirst =>
      obtain ⟨hfirst, hbefore⟩ := Option.filter_eq_some_iff.1 hfirst
      have hfound := receive_found hawaits hover h.ordered hfirst (isInTime_of_before hbefore)
      have hname : lookup.awaiting.timeline.socket.name = lookup.name := h.name
      rw [hname] at hfound
      rw [endingBy_eq]
      exact h.comesTo _ (outcome_ne_noResponse _ _) hfound
    next hnone =>
      have hlate : lookup.awaiting.timeline.Misses
          (length.map lookup.awaiting.timeline.now.after) events := fun answer hfirst =>
        hties.isInTime_eq_false (List.mem_of_find?_eq_some hfirst)
          (Option.filter_eq_none_iff.1 hnone answer hfirst)
      split
      next cancel hcancel =>
        obtain ⟨hcancel, hbefore⟩ := Option.filter_eq_some_iff.1 hcancel
        refine h.comesTo (.error .cancelled) (by simp)
          (receive_cancelled hawaits hover h.ordered hlate hcancel fun time hlimit => ?_)
        change length.map lookup.timeline.now.after = some time at hlimit
        rw [hlimit] at hbefore
        exact of_decide_eq_true hbefore
      next hnocancel =>
        have hlast := fun cancel hcancel => Option.filter_eq_none_iff.1 hnocancel cancel hcancel
        obtain ⟨deadline, hlimit⟩ := hties.exists_deadline hlate hlast
        rw [hlimit] at hlast ⊢
        refine h.comesTo (.ok none) (by simp)
          (receive_timeUp hawaits hover h.ordered hlate hlimit fun cancel hcancel => ?_)
        exact (hties.apart deadline hlimit cancel hcancel).resolve_left fun hlt =>
          hlast cancel hcancel (decide_eq_true hlt)

/-! ## The whole of it -/

/-- What holds of a lookup that has come to an ending and told of its last state. -/
structure EndsWith (lookup : Lookup) (ending : Ending)
    (outcome : Except Failure Datagram × Lookup) : Prop where
  result : outcome.1 = ending.result
  states : outcome.2.timeline.states = lookup.timeline.states ++ ending.passed ++ [ending.last]
  state : outcome.2.state = ending.last
  clock : ClockAt lookup.timeline.now lookup.coming ending.time outcome.2.timeline.now
  closes : ClosesAll lookup.timeline outcome.2.timeline

theorem comesTo_at_once {failure : Failure} {t : Timeline} {request : Lookup}
    (hnow : t.now = lookup.timeline.now) (hstates : t.states = lookup.timeline.states)
    (htimeline : request.timeline = t) :
    ComesTo lookup events ⟨.error failure, [], lookup.timeline.now⟩ (.error failure, request) := by
  subst htimeline
  refine ⟨rfl, hstates.trans (List.append_nil _).symm, ?_⟩
  rw [hnow]
  exact .start _ _

/-- A lookup whose question may get out. -/
structure IsReady (lookup : Lookup) (length : Option Span) : Prop where
  called : lookup.timeline.called = []
  agenda : lookup.timeline.agenda = []
  wait : lookup.response.map Timeout.length = .value length
  ties : isOver length = false → lookup.HasNoTies length lookup.coming

/-- For the ending it does not matter that the question is out by now. -/
theorem awaitedEnding_timeline {t : Timeline} (hnow : t.now = lookup.timeline.now)
    (hcancel : t.cancelAt = lookup.timeline.cancelAt) :
    { lookup with timeline := t }.awaitedEnding length events =
      lookup.awaitedEnding length events := by
  unfold awaitedEnding
  dsimp only
  rw [hnow, hcancel]
  rfl

theorem HasNoTies.of_timeline {t : Timeline} (h : lookup.HasNoTies length events)
    (hnow : t.now = lookup.timeline.now) (hcancel : t.cancelAt = lookup.timeline.cancelAt) :
    { lookup with timeline := t }.HasNoTies length events := by
  obtain ⟨hdeadline, hapart, hends⟩ := h
  rw [← hnow] at hdeadline hapart
  rw [← hcancel] at hapart hends
  exact ⟨hdeadline, hapart, hends⟩

theorem awaits_of_asks {t u : Timeline} {destination : Destination} (hnew : t.socket.IsNew)
    (hcalled : t.called = []) (h : Asks t destination u) :
    Awaits t.links.length (Schedule.inOrder Prod.fst (t.answers destination)) u := by
  obtain ⟨broadcast, hsocket⟩ := h.socket
  refine ⟨?_, ?_, h.isConnected, h.called.trans hcalled, h.agenda⟩
  · rw [hsocket]
    exact hnew.queue
  · rw [hsocket]
    exact hnew.stream

/-- The timeline of a lookup that is about to open its socket. -/
def opening (lookup : Lookup) : Timeline :=
  lookup.timeline.use (.new lookup.name none Protocol.maxQueueSize)

/-- Whatever comes of a lookup, its socket is closed behind it. -/
def closed (outcome : Except Failure Datagram × Lookup) : Except Failure Datagram × Lookup :=
  (outcome.1, { outcome.2 with timeline := outcome.2.timeline.close })

/-- A lookup whose question is out waits for what comes to it. -/
theorem IsReady.isWaiting (h : lookup.IsReady length) {destination : Destination} {t : Timeline}
    (hasks : Asks lookup.opening destination t)
    (hreach : lookup.timeline.network.reach lookup.name none = .ok destination) :
    IsWaiting lookup.timeline.links.length lookup.coming length { lookup with timeline := t } := by
  have hcoming :
      Schedule.inOrder Prod.fst (lookup.timeline.answers destination) = lookup.coming := by
    rw [coming, hreach]
  have hawaits := awaits_of_asks (t := lookup.opening) (Socket.isNew_new _ _ _) h.called hasks
  obtain ⟨broadcast, hsocket⟩ := hasks.socket
  refine ⟨hcoming ▸ hawaits, ?_, hcoming ▸ Schedule.isOrdered_inOrder _, h.wait⟩
  rw [hsocket]
  rfl

theorem IsReady.await_comesTo (h : lookup.IsReady length) {destination : Destination}
    {t : Timeline} (hasks : Asks lookup.opening destination t)
    (hreach : lookup.timeline.network.reach lookup.name none = .ok destination) :
    ComesTo lookup lookup.coming (lookup.awaitedEnding length lookup.coming)
        (closed { lookup with timeline := t }.await) ∧
      ClosesAll lookup.timeline (closed { lookup with timeline := t }.await).2.timeline := by
  have hnow : t.now = lookup.timeline.now := hasks.now
  have hstates : t.states = lookup.timeline.states := hasks.states
  obtain ⟨hcomes, u, notices, hmoves, htimeline⟩ := (h.isWaiting hasks hreach).await
    fun hover => (h.ties hover).of_timeline hasks.now hasks.cancelAt
  rw [awaitedEnding_timeline hasks.now hasks.cancelAt] at hcomes
  have hclock := hcomes.clock
  dsimp only at hclock
  rw [hnow] at hclock
  refine ⟨⟨hcomes.result, ?_, ?_⟩, closesAll_of_links hasks.links ?_ ?_⟩
  · refine (states_close _).trans (hcomes.states.trans ?_)
    rw [hstates]
  · show ClockAt lookup.timeline.now _ _ (Timeline.close _).now
    rw [now_close]
    exact hclock
  · rw [htimeline]
    exact hmoves.later.closedLinks
  · obtain ⟨broadcast, hsocket⟩ := hasks.socket
    have hlink : u.socket.link = t.socket.link := hmoves.later.link
    rw [htimeline, socket_note, hlink, hsocket]
    rfl

theorem exchange_comesTo (h : lookup.IsReady length) {data : List UInt8}
    (hdata : lookup.request.encode = .ok data) :
    ComesTo lookup lookup.coming (lookup.ending length) (lookup.exchange data) ∧
      ClosesAll lookup.timeline (lookup.exchange data).2.timeline := by
  unfold ending
  rw [hdata]
  dsimp only
  rcases openSocket_cases (t := lookup.opening) rfl with ⟨destination, u, hopen, hopens, hreach⟩ |
    ⟨failure, u, hopen, hfails, hreach⟩
  · have hexchange : lookup.exchange data =
        closed (Lookup.ask { lookup with timeline := u } data) := by
      rw [exchange, show (lookup.timeline.use _).openSocket = _ from hopen]
      rfl
    change lookup.timeline.network.reach lookup.name none = _ at hreach
    rw [hexchange, ask]
    rcases send_of_opens hopens h.agenda data with ⟨v, hsend, hsent, hasks⟩ | ⟨error, hsend, hsent⟩
    · rw [hsend] at hreach
      rw [hreach, hsent]
      exact h.await_comesTo hasks hreach
    · rw [hsend] at hreach
      rw [hreach, hsent]
      obtain ⟨broadcast, hsocket⟩ := hopens.socket
      refine ⟨comesTo_at_once ?_ ?_ rfl, closesAll_of_links hopens.links rfl ?_⟩
      · exact (now_close _).trans hopens.now
      · refine (states_close _).trans (Eq.trans (states_note_of_silent ?_) hopens.states)
        simp [Notice.newState?]
      · rw [socket_note, hsocket]
        rfl
  · change lookup.timeline.network.reach lookup.name none = .error failure at hreach
    rw [exchange, show (lookup.timeline.use _).openSocket = _ from hopen, hreach]
    exact ⟨comesTo_at_once hfails.now hfails.states rfl, hfails.closes⟩

theorem answer_comesTo (h : lookup.IsReady length) :
    ComesTo lookup lookup.coming (lookup.ending length) lookup.answer ∧
      ClosesAll lookup.timeline lookup.answer.2.timeline := by
  cases hencode : lookup.request.encode with
  | error fault =>
    unfold ending answer
    rw [hencode]
    exact ⟨comesTo_at_once rfl rfl rfl, [], (List.append_nil _).symm, by simp⟩
  | ok data =>
    have hanswer : lookup.answer = lookup.exchange data := by
      unfold answer
      rw [hencode]
    rw [hanswer]
    exact exchange_comesTo h hencode

theorem run_of_idle (hidle : lookup.state = .idle) :
    lookup.run = (lookup.answer.1, lookup.answer.2.setState
      (match lookup.answer.1 with
        | .ok _ => .completed
        | .error _ => .failed)) := by
  rw [run, if_neg (not_not.2 hidle)]
  split
  next h => rw [h]
  next h => rw [h]

/-- A lookup that has not been run comes to its ending, and closes whatever it created. If its
request cannot be written it creates nothing; and it is the transport that keeps a question
from getting out. -/
theorem run_endsWith (hidle : lookup.state = .idle) (hready : lookup.IsReady length)
    (hvalid : lookup.timeline.network.localNetworks.AreValid) :
    EndsWith lookup (lookup.ending length) lookup.run ∧
      (∀ fault, lookup.request.encode = .error fault →
        lookup.run.2.timeline.links = lookup.timeline.links) ∧
      ∀ failure, lookup.timeline.network.reach lookup.name none = .error failure →
        ∃ fault, failure = .transport fault := by
  obtain ⟨hcomes, hcloses⟩ := answer_comesTo hready
  have hlast : (match lookup.answer.1 with
      | .ok _ => .completed
      | .error _ => .failed) = (lookup.ending length).last := by
    rw [hcomes.result]
    rfl
  rw [run_of_idle hidle, hlast]
  refine ⟨⟨hcomes.result, ?_, rfl, hcomes.clock, hcloses⟩, ?_, ?_⟩
  · rw [states_setState, hcomes.states]
  · intro fault hfault
    show lookup.answer.2.timeline.links = _
    unfold answer
    rw [hfault]
  · exact fun failure => Network.exists_transport_of_reach hvalid

/-- A lookup at a host that answers after a refusal. -/
def answered : Lookup :=
  .new (.new { Network.silent ⟨[], none, none⟩ with
      replies := [("10.0.0.2", [⟨Span.ofMillis 5, .failure ⟨111, "Connection refused"⟩⟩,
        ⟨Span.ofMillis 20, .datagram none [5]⟩])] })
    ⟨"10.0.0.2", .value 1434⟩ (.named "A") (.value .defaultResponse)

theorem run_endsWith_answered :
    answered.state = .idle ∧ answered.IsReady Timeout.defaultResponse.length ∧
      answered.timeline.network.localNetworks.AreValid ∧
      answered.run.1 = .ok ⟨⟨"10.0.0.2", .value 1434⟩, [5]⟩ ∧
      answered.run.2.timeline.states = [.requestSent, .awaitingOne, .completed] ∧
      Instant.isDue (Span.ofMillis 20) answered.run.2.timeline.now = true ∧
      ClosesAll answered.timeline answered.run.2.timeline := by
  have hready : answered.IsReady Timeout.defaultResponse.length := by
    refine ⟨rfl, rfl, rfl, fun _ => ⟨?_, ?_, ?_⟩⟩
    · intro deadline hdeadline
      rw [← Option.some.inj hdeadline]
      decide +kernel
    · intro deadline _ cancel hcancel
      cases hcancel
    · intro hlength
      exact absurd hlength (by decide +kernel)
  have hvalid : answered.timeline.network.localNetworks.AreValid := by
    intro entry hentry
    cases hentry
  obtain ⟨hends, -, -⟩ := run_endsWith rfl hready hvalid
  have hending : answered.ending Timeout.defaultResponse.length =
      ⟨.ok ⟨⟨"10.0.0.2", .value 1434⟩, [5]⟩, [.requestSent, .awaitingOne], Span.ofMillis 20⟩ := by
    decide +kernel
  rw [hending] at hends
  exact ⟨rfl, hready, hvalid, hends.result, hends.states, hends.clock.isDue, hends.closes⟩

end Lookup

end SqlResolution
