import SqlResolution.Proofs.Collection.Bounded
import SqlResolution.Proofs.Timeline.InStep

/-!
# Two exchanges in step

Each operation of an exchange gives the same result in both runs and leaves them in step. An
operation that waits may also wait for ever, and then it does so in both. If it ends, then the
instant at which it does so matters, unless a datagram ends it.

A timeout that is no number ends a wait as soon as nothing is to come, and to this a refusal counts
like anything else. So the timeouts of single waits are numbers here.
-/

namespace SqlResolution

/-- If a timeout is given, it is a number. -/
def Setting.IsNumber (setting : Setting Timeout) : Prop :=
  ∀ timeout, setting = .value timeout → timeout.IsNumber

/-- The timeout of each single wait is a number. -/
def Limits.AreNumbers (limits : Limits) : Mode → Prop
  | .one => limits.response.IsNumber
  | .many => limits.inactivity.IsNumber

namespace Timeline

variable {P : Instant → Prop} {S : List Sent} {full sparse : Timeline} {α : Type}
  {length : Option Span} {mode : Mode} {limits : Limits} {endsAt : Option Instant}
  {data : List UInt8}

/-- Two outcomes have the same result, and the runs are in step. -/
structure Agree (P : Instant → Prop) (S : List Sent) (full sparse : Outcome α) : Prop where
  result : full.1 = sparse.1
  inStep : InStep P S full.2 sparse.2

theorem Agree.of_eq {full sparse : Outcome α} {result : Except Failure α} {after : Timeline}
    (h : Agree P S full sparse) (hsparse : sparse = (result, after)) :
    ∃ other, full = (result, other) ∧ InStep P S other after := by
  subst hsparse
  exact ⟨full.2, Prod.ext h.result rfl, h.inStep⟩

theorem InStep.note (h : InStep P S full sparse) (notices : List Notice) :
    InStep P S (full.note notices) (sparse.note notices) :=
  { h.toBeside.note notices with now := h.now }

theorem InStep.use (h : InStep P S full sparse) (socket : Socket) :
    InStep P S (full.use socket) (sparse.use socket) :=
  { h.toBeside.use socket with now := h.now }

theorem InStep.handle (h : InStep P S full sparse) (event : Event) :
    InStep P S (full.handle event) (sparse.handle event) :=
  { h.toBeside.handle event with now := h.now }

theorem InStep.withLinks (h : InStep P S full sparse) (links : List Link) :
    InStep P S { full with links } { sparse with links } :=
  { h.toBeside.withLinks links with now := h.now }

theorem InStep.arrive (h : InStep P S full sparse) (delivery : Delivery) :
    InStep P S (full.arrive delivery) (sparse.arrive delivery) :=
  { h.toBeside.arrive delivery with now := by rw [now_arrive, now_arrive, h.now] }

/-! ## Opening and closing -/

theorem InStep.dropLink (h : InStep P S full sparse) (link : Nat) :
    InStep P S (full.dropLink link) (sparse.dropLink link) := by
  have hdropped := (h.use { sparse.socket with link := none }).arrive ⟨full.now, link, .loss none⟩
  rw [Timeline.dropLink, h.socket]
  exact { hdropped.release link with now := hdropped.now }

theorem InStep.close (h : InStep P S full sparse) : InStep P S full.close sparse.close := by
  cases hlink : sparse.socket.link with
  | none =>
    rw [close_of_no_link hlink, close_of_no_link ((congrArg _ h.socket).trans hlink), h.socket]
    exact h.use _
  | some link =>
    have hdropped := h.dropLink link
    rw [close_of_link hlink, close_of_link ((congrArg _ h.socket).trans hlink), hdropped.socket]
    exact hdropped.use _

theorem InStep.openTo (h : InStep P S full sparse) (destination : Destination) (broadcast : Bool) :
    Agree P S (full.openTo destination broadcast) (sparse.openTo destination broadcast) := by
  have hopening : full.network.openLink destination.family broadcast =
      sparse.network.openLink destination.family broadcast := by
    rw [h.network.same]
    rfl
  rw [Timeline.openTo, Timeline.openTo, hopening, h.links, h.socket]
  split
  next error closed _ =>
    have hclosed := (h.withLinks (sparse.links ++ closed.toList)).close
    rw [h.socket] at hclosed
    dsimp only
    rw [hclosed.socket]
    exact ⟨rfl, hclosed⟩
  next link _ =>
    have hopened := (h.withLinks (sparse.links ++ [link])).use
      { sparse.socket with link := some sparse.links.length }
    exact ⟨rfl, hopened.note _⟩

theorem Beside.decideBroadcast (h : Beside P S full sparse) (destination : Destination) :
    full.decideBroadcast destination = sparse.decideBroadcast destination := by
  have hneeds : full.network.needsBroadcast = sparse.network.needsBroadcast := by
    rw [h.network.same]
    rfl
  rw [Timeline.decideBroadcast, Timeline.decideBroadcast, h.socket, hneeds]

theorem InStep.openSocket (h : InStep P S full sparse) :
    Agree P S full.openSocket sparse.openSocket := by
  have hresolve : full.network.resolve = sparse.network.resolve := by
    rw [h.network.same]
    rfl
  rw [Timeline.openSocket, Timeline.openSocket, h.socket]
  dsimp only
  rw [hresolve]
  split
  · exact ⟨rfl, h⟩
  · exact ⟨rfl, h⟩
  next family host _ _ =>
    have haimed := h.use
      { sparse.socket with destination := some ⟨family, host, sparse.socket.name.port⟩ }
    dsimp only at haimed
    rw [haimed.decideBroadcast]
    split
    · exact ⟨rfl, haimed⟩
    next broadcast _ =>
      exact (haimed.use { (sparse.use _).socket with broadcast := some broadcast }).openTo _ _

/-! ## Sending -/

theorem InStep.withAgenda (h : InStep P S full sparse) (sent : List Sent) (socket : Socket)
    {agenda fewer : List Delivery} (hcoming : Coming P agenda fewer) :
    InStep P S { full with sent, agenda, socket } { sparse with sent, agenda := fewer, socket } :=
  { h with
    sent := rfl
    socket := rfl
    coming := hcoming }

/-- What is sent brings the same replies, but for refusals. -/
theorem InStep.dispatch (h : InStep P S full sparse) (link : Nat) (destination : Destination)
    (data : List UInt8)
    (hsent : ⟨destination.host, destination.port, data, sparse.now⟩ ∈ S) :
    InStep P S (full.dispatch link destination data) (sparse.dispatch link destination data) := by
  have hreplies : LeavesOut (Delivery.IsSpare P) (full.deliveries link destination)
      (sparse.deliveries link destination) := by
    rw [deliveries, deliveries, h.now]
    refine (h.network.replies destination.host).map _ ?_
    rintro reply ⟨hrefusal, hapart⟩
    have hspare := hapart ⟨destination.host, destination.port, data, sparse.now⟩ hsent rfl
    dsimp only at hspare
    exact ⟨(reply.answer.isRefusal_event destination.peer).trans hrefusal, hspare⟩
  have hmatter : ∀ delivery ∈ sparse.deliveries link destination, P delivery.time := by
    intro delivery hmem
    obtain ⟨reply, hreply, rfl⟩ := List.mem_map.1 hmem
    exact h.network.matter _ hsent reply hreply
  have hfull : full.dispatch link destination data =
      { full with
        sent := sparse.sent ++ [⟨destination.host, destination.port, data, sparse.now⟩]
        agenda := (full.deliveries link destination).foldl
          (fun agenda delivery => delivery.insert agenda) full.agenda
        socket := { sparse.socket with sentAt := some sparse.now } } := by
    rw [Timeline.dispatch, h.sent, h.socket, h.now]
  rw [hfull]
  exact h.withAgenda _ _ (Coming.foldl_insert hreplies hmatter h.coming)

theorem InStep.send (h : InStep P S full sparse) (hsent : (sparse.send data).2.sent ⊆ S) :
    Agree P S (full.send data) (sparse.send data) := by
  have herror : full.network.sendError = sparse.network.sendError := by
    rw [h.network.same]
  by_cases hopen : sparse.socket.link = none ∨ sparse.socket.destination = none
  · rw [send_of_not_open hopen, send_of_not_open (h.socket ▸ hopen), h.socket]
    exact ⟨rfl, h⟩
  · obtain ⟨hlink, hdestination⟩ := not_or.1 hopen
    obtain ⟨link, hlink⟩ := Option.ne_none_iff_exists'.1 hlink
    obtain ⟨destination, hdestination⟩ := Option.ne_none_iff_exists'.1 hdestination
    have hnoted := h.note [.sending sparse.socket.name destination data]
    rw [send_of_link hlink hdestination] at hsent ⊢
    rw [send_of_link ((congrArg _ h.socket).trans hlink) ((congrArg _ h.socket).trans hdestination),
      herror, h.socket]
    split
    · exact ⟨rfl, hnoted⟩
    next hfine =>
      rw [hfine] at hsent
      exact ⟨rfl, hnoted.dispatch link destination data
        (hsent (List.mem_append_right _ List.mem_cons_self))⟩

/-! ## Receiving -/

theorem InStep.take (h : InStep P S full sparse) :
    full.take.1 = sparse.take.1 ∧ InStep P S full.take.2 sparse.take.2 := by
  rw [Timeline.take, Timeline.take, h.socket]
  exact ⟨rfl, h.use _⟩

theorem InStep.takeReady (h : InStep P S full sparse) :
    Agree P S full.takeReady sparse.takeReady := by
  obtain ⟨hfound, htaken⟩ := h.take
  rw [takeReady_eq, takeReady_eq, hfound]
  exact ⟨rfl, htaken⟩

theorem InStep.takeCalled (h : InStep P S full sparse) :
    Agree P S full.takeCalled sparse.takeCalled := by
  obtain ⟨hresult, htaken⟩ := h.takeReady
  exact ⟨hresult, htaken.resume htaken.coming⟩

/-- Nothing but a datagram makes it immaterial where the clock stops. -/
def EndsAt (P : Instant → Prop) (received : Outcome (Option Datagram)) : Prop :=
  (∀ datagram, received.1 ≠ .ok (some datagram)) → P received.2.now

theorem EndsAt.now_of_not_ready {waited : Wake × Timeline} (h : EndsAt P (afterWait waited))
    (hwake : waited.1 ≠ .ready) : P waited.2.now := by
  obtain ⟨wake, after⟩ := waited
  cases wake with
  | ready => exact absurd rfl hwake
  | timeUp => exact h fun _ => nofun
  | cancelled => exact h fun _ => nofun

theorem InStep.afterWait {waited other : Wake × Timeline} (hwake : waited.1 = other.1)
    (h : InStep P S waited.2 other.2) : Agree P S (afterWait waited) (afterWait other) := by
  obtain ⟨wake, after⟩ := waited
  obtain ⟨_, other⟩ := other
  cases hwake
  cases wake with
  | ready => exact h.takeReady
  | timeUp => exact ⟨rfl, h⟩
  | cancelled => exact ⟨rfl, h⟩

theorem InStep.await (h : InStep P S full sparse) (length : Option Span)
    (hend : sparse.awaitHangs length = false → EndsAt P (sparse.await length)) :
    HangAlike (full.awaitHangs length) (sparse.awaitHangs length)
      (Agree P S (full.await length) (sparse.await length)) := by
  rw [Timeline.await, awaitHangs] at hend
  rw [Timeline.await, Timeline.await, awaitHangs, awaitHangs]
  split
  next hover =>
    rw [hover]
    exact .never rfl rfl ⟨rfl, h⟩
  next hleft =>
    have hcalled := h.deliverCalled
    rw [if_neg hleft, Bool.eq_false_of_not_eq_true hleft, Bool.not_false, Bool.true_and] at hend
    rw [Bool.eq_false_of_not_eq_true hleft, Bool.not_false, Bool.true_and, Bool.true_and]
    dsimp only at hend ⊢
    rw [hcalled.now, hcalled.isReady]
    split
    next hready =>
      refine .never ?_ ?_ hcalled.takeCalled
      · exact hangs_of_ready (hcalled.isReady.trans hready) _
      · exact hangs_of_ready hready _
    next hready =>
      rw [if_neg hready] at hend
      have hwaited := hcalled.wait fun hends => (hend hends).now_of_not_ready
      exact ⟨hwaited.hangs, fun hends =>
        (hwaited.common hends).2.afterWait (hwaited.common hends).1⟩

theorem InStep.receive (h : InStep P S full sparse) (length : Setting (Option Span))
    (hend : sparse.receiveHangs length = false → EndsAt P (sparse.receive length)) :
    HangAlike (full.receiveHangs length) (sparse.receiveHangs length)
      (Agree P S (full.receive length) (sparse.receive length)) := by
  by_cases hfound : sparse.socket.take.1.isSome = true
  · rw [receive_of_isSome hfound, receive_of_isSome (h.socket ▸ hfound)]
    exact .never (receiveHangs_of_isSome (h.socket ▸ hfound) length)
      (receiveHangs_of_isSome hfound length) h.takeReady
  · have hfull : full.take = (none, full) := take_of_not_isSome (h.socket ▸ hfound)
    have hsparse : sparse.take = (none, sparse) := take_of_not_isSome hfound
    rw [Timeline.receive, receiveHangs, hsparse] at hend
    rw [Timeline.receive, Timeline.receive, receiveHangs, receiveHangs, hfull, hsparse]
    cases length with
    | blank => exact .never rfl rfl ⟨rfl, h⟩
    | value length => exact h.await length hend

/-! ## Collecting -/

theorem InStep.awaitNext (h : InStep P S full sparse) (hnumbers : limits.AreNumbers .many)
    (endsAt : Option Instant)
    (hend : sparse.nextHangs limits endsAt = false → EndsAt P (sparse.awaitNext limits endsAt)) :
    HangAlike (full.nextHangs limits endsAt) (sparse.nextHangs limits endsAt)
      (Agree P S (full.awaitNext limits endsAt) (sparse.awaitNext limits endsAt)) := by
  rw [Timeline.awaitNext, nextHangs] at hend
  rw [Timeline.awaitNext, Timeline.awaitNext, nextHangs, nextHangs, h.now]
  split
  next hover =>
    rw [h.socket]
    exact .never rfl rfl ⟨rfl, h.note _⟩
  next hleft =>
    rw [if_neg hleft, if_neg hleft] at hend
    cases hinactivity : limits.inactivity with
    | blank => exact .never rfl rfl ⟨rfl, h⟩
    | value inactivity =>
      rw [hinactivity] at hend
      dsimp only at hend ⊢
      have hnumber := hnumbers inactivity hinactivity
      rw [timedHangs_of_isNumber hnumber] at hend ⊢
      rw [timedHangs_of_isNumber hnumber]
      exact h.receive _ hend

/-- Two collections took the same and failed alike, and the runs are in step. -/
structure GatherAlike (P : Instant → Prop) (S : List Sent) (full sparse : Collected) : Prop where
  datagrams : full.datagrams = sparse.datagrams
  failure : full.failure = sparse.failure
  inStep : InStep P S full.timeline sparse.timeline

theorem InStep.awaitMany (h : InStep P S full sparse) (hnumbers : limits.AreNumbers .many)
    (endsAt : Option Instant)
    (hend : sparse.manyHangs limits endsAt = false →
      P (awaitMany limits endsAt sparse).timeline.now) :
    HangAlike (full.manyHangs limits endsAt) (sparse.manyHangs limits endsAt)
      (GatherAlike P S (awaitMany limits endsAt full) (awaitMany limits endsAt sparse)) := by
  fun_induction Timeline.awaitMany limits endsAt sparse generalizing full with
  | case1 sparse failure after hnext =>
    have hlast := manyHangs_of_error hnext
    have hstep := h.awaitNext hnumbers endsAt fun hends => by
      rw [hnext]
      exact fun _ => hend (hlast.trans hends)
    -- If the request hangs, so does the collection, and nothing else is asked of it.
    refine hstep.and_then manyHangs_of_nextHangs manyHangs_of_nextHangs fun _ hagree => ?_
    obtain ⟨other, hother, hafter⟩ := hagree.of_eq hnext
    rw [awaitMany_of_error hother, manyHangs_of_error hother, hlast]
    exact ⟨hstep.hangs, fun _ => ⟨rfl, rfl, hafter⟩⟩
  | case2 sparse after hnext =>
    have hlast := manyHangs_of_none hnext
    have hstep := h.awaitNext hnumbers endsAt fun hends => by
      rw [hnext]
      exact fun _ => hend (hlast.trans hends)
    refine hstep.and_then manyHangs_of_nextHangs manyHangs_of_nextHangs fun _ hagree => ?_
    obtain ⟨other, hother, hafter⟩ := hagree.of_eq hnext
    rw [awaitMany_of_none hother, manyHangs_of_none hother, hlast]
    exact ⟨hstep.hangs, fun _ => ⟨rfl, rfl, hafter⟩⟩
  | case3 sparse datagram after hnext hpending rest =>
    rename_i ih
    have hstep := h.awaitNext hnumbers endsAt fun _ => by
      rw [hnext]
      exact fun hnone => absurd rfl (hnone datagram)
    refine hstep.and_then manyHangs_of_nextHangs manyHangs_of_nextHangs fun hends hagree => ?_
    have hlater := manyHangs_of_some hnext
    obtain ⟨other, hother, hafter⟩ := hagree.of_eq hnext
    rw [hends, Bool.false_or] at hlater
    rw [hlater] at hend ⊢
    rw [awaitMany_of_some hother, manyHangs_of_some hother, hstep.hangs, hends, Bool.false_or]
    obtain ⟨hhangs, halike⟩ := ih hafter hend
    refine ⟨hhangs, fun hgoes => ?_⟩
    obtain ⟨hdatagrams, hfailure, hlast⟩ := halike hgoes
    exact ⟨congrArg (datagram :: ·) hdatagrams, hfailure, hlast⟩

theorem snd_awaitOne (t : Timeline) (response : Setting Timeout) :
    (t.awaitOne response).2 = (t.receive (response.map Timeout.length)).2 := by
  rw [Timeline.awaitOne]
  split
  next hreceive => rw [hreceive]
  next hreceive => rw [hreceive]
  next hreceive => rw [hreceive]

theorem oneHangs_eq {response : Setting Timeout} (hnumber : response.IsNumber) (t : Timeline) :
    t.oneHangs response = t.receiveHangs (response.map Timeout.length) := by
  cases response with
  | value timeout => exact timedHangs_of_isNumber (hnumber timeout rfl) t timeout.length
  | blank =>
    rw [oneHangs, receiveHangs]
    split <;> rfl

theorem InStep.awaitOne (h : InStep P S full sparse) {response : Setting Timeout}
    (hnumber : response.IsNumber)
    (hend : sparse.oneHangs response = false → P (sparse.awaitOne response).2.now) :
    HangAlike (full.oneHangs response) (sparse.oneHangs response)
      (Agree P S (full.awaitOne response) (sparse.awaitOne response)) := by
  rw [oneHangs_eq hnumber, snd_awaitOne] at hend
  rw [oneHangs_eq hnumber, oneHangs_eq hnumber]
  have hreceived := h.receive (response.map Timeout.length) fun hends _ => hend hends
  refine ⟨hreceived.hangs, fun hends => ?_⟩
  have hagree := hreceived.common hends
  rcases hreceive : sparse.receive (response.map Timeout.length) with ⟨result, after⟩
  obtain ⟨other, hother, hafter⟩ := hagree.of_eq hreceive
  rw [Timeline.awaitOne, Timeline.awaitOne, hother, hreceive]
  rcases result with failure | _ | datagram
  · exact ⟨rfl, hafter⟩
  · refine ⟨?_, hafter⟩
    dsimp only
    rw [hafter.socket]
  · exact ⟨rfl, hafter⟩

theorem InStep.endOf (h : InStep P S full sparse) (total : Setting Timeout) :
    full.endOf total = sparse.endOf total := by
  cases total with
  | value total =>
    rw [Timeline.endOf, h.socket, h.now]
    rfl
  | blank => rfl

theorem InStep.gather (h : InStep P S full sparse) (hnumbers : limits.AreNumbers mode)
    (hend : sparse.gatherHangs mode limits = false → P (sparse.gather mode limits).timeline.now) :
    HangAlike (full.gatherHangs mode limits) (sparse.gatherHangs mode limits)
      (GatherAlike P S (full.gather mode limits) (sparse.gather mode limits)) := by
  cases mode with
  | one =>
    have hsnd : (sparse.gather .one limits).timeline = (sparse.awaitOne limits.response).2 := by
      rw [Timeline.gather]
      split
      next hone => rw [hone]
      next hone => rw [hone]
    rw [hsnd] at hend
    have hawaited := h.awaitOne hnumbers hend
    refine ⟨hawaited.hangs, fun hends => ?_⟩
    rcases hone : sparse.awaitOne limits.response with ⟨failure | datagram, after⟩
    · obtain ⟨other, hother, hafter⟩ := (hawaited.common hends).of_eq hone
      rw [Timeline.gather, Timeline.gather, hother, hone]
      exact ⟨rfl, rfl, hafter⟩
    · obtain ⟨other, hother, hafter⟩ := (hawaited.common hends).of_eq hone
      rw [Timeline.gather, Timeline.gather, hother, hone]
      exact ⟨rfl, rfl, hafter⟩
  | many =>
    rw [gatherHangs, Timeline.gather] at hend
    rw [gatherHangs, gatherHangs, Timeline.gather, Timeline.gather, h.endOf]
    cases hends : sparse.endOf limits.total with
    | error failure => exact .never rfl rfl ⟨rfl, rfl, h⟩
    | ok endsAt =>
      rw [hends] at hend
      exact h.awaitMany hnumbers endsAt hend

/-! ## The whole exchange -/

theorem sent_ask (t : Timeline) (data : List UInt8) (mode : Mode) (limits : Limits) :
    (t.ask data mode limits).2.sent = (t.send data).2.sent := by
  rw [Timeline.ask]
  split
  next hsend => rw [hsend]
  next asked hsend =>
    have hgather := (moves_gather asked mode limits).later.sent
    rw [hsend]
    dsimp only
    split <;> exact hgather

theorem InStep.ask (h : InStep P S full sparse) (hnumbers : limits.AreNumbers mode)
    (hsent : (sparse.ask data mode limits).2.sent ⊆ S)
    (hend : sparse.askHangs data mode limits = false → P (sparse.ask data mode limits).2.now) :
    HangAlike (full.askHangs data mode limits) (sparse.askHangs data mode limits)
      (Agree P S (full.ask data mode limits) (sparse.ask data mode limits)) := by
  rw [sent_ask] at hsent
  have hagree := h.send hsent
  rw [Timeline.ask, askHangs] at hend
  rw [Timeline.ask, Timeline.ask, askHangs, askHangs]
  rcases hsend : sparse.send data with ⟨failure | _, asked⟩
  · obtain ⟨other, hother, hafter⟩ := hagree.of_eq hsend
    rw [hother]
    exact .never rfl rfl ⟨rfl, hafter⟩
  · obtain ⟨other, hother, hafter⟩ := hagree.of_eq hsend
    rw [hsend] at hend
    rw [hother]
    dsimp only at hend ⊢
    have hgathered := hafter.gather hnumbers fun hends => by
      have hnow := hend hends
      split at hnow <;> exact hnow
    refine ⟨hgathered.hangs, fun hends => ?_⟩
    obtain ⟨hdatagrams, hfailure, hlast⟩ := hgathered.common hends
    rw [hfailure, hdatagrams]
    split <;> exact ⟨rfl, hlast⟩

theorem InStep.collect (h : InStep P S full sparse) (hnumbers : limits.AreNumbers mode)
    (hsent : (sparse.collect data mode limits).2.sent ⊆ S)
    (hend : sparse.collectHangs data mode limits = false →
      P (sparse.collect data mode limits).2.now) :
    HangAlike (full.collectHangs data mode limits) (sparse.collectHangs data mode limits)
      (Agree P S (full.collect data mode limits) (sparse.collect data mode limits)) := by
  have hagree := h.openSocket
  rw [Timeline.collect] at hsent
  rw [Timeline.collect, collectHangs] at hend
  rw [Timeline.collect, Timeline.collect, collectHangs, collectHangs]
  rcases hopen : sparse.openSocket with ⟨failure | _, opened⟩
  · obtain ⟨other, hother, hafter⟩ := hagree.of_eq hopen
    rw [hother]
    exact .never rfl rfl ⟨rfl, hafter⟩
  · obtain ⟨other, hother, hafter⟩ := hagree.of_eq hopen
    rw [hopen] at hsent hend
    rw [hother]
    dsimp only at hsent hend ⊢
    rw [sent_close] at hsent
    rw [now_close] at hend
    have hasked := hafter.ask hnumbers hsent hend
    exact ⟨hasked.hangs, fun hends =>
      ⟨(hasked.common hends).result, (hasked.common hends).inStep.close⟩⟩

end Timeline

end SqlResolution
