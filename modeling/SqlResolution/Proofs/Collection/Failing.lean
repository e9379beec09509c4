import SqlResolution.Proofs.Collection.Following
import SqlResolution.Proofs.Exchange.Obstacle
import SqlResolution.Proofs.Socket.End
import SqlResolution.Proofs.Timeline.Flow

/-!
# How an exchange fails

An exchange that did not get its question out fails with what kept it from that. One that did
looks at the queue again and again, either at once or when something comes while it waits. It
fails with an error of the transport if and only if, in one of these looks, no datagram is in
front of the end of the stream and the end was brought by that error. Then all that was accepted
before has been taken.

So much is known of the stream from the history of the socket: the first event that ends it
decides how.
-/

namespace SqlResolution

/-- How something ends the stream, if it does so. -/
def Moment.end? (moment : Moment) : Option (Option OsError) :=
  match moment.act with
  | .event event => event.end?
  | .close => some none
  | .take => none

namespace Socket

variable {socket : Socket} {error : Option OsError}

theorem stream_finish (h : socket.stream = .flowing) (error : Option OsError) :
    (socket.finish error).stream = .ended error := by
  have hflowing : socket.hasEnded = false := by rw [hasEnded, h]; rfl
  rw [finish, if_neg (ne_true_of_eq_false hflowing)]

/-- An event ends a stream, or it goes on. -/
theorem stream_handle (h : socket.stream = .flowing) (event : Event) :
    (socket.handle event).2.stream = event.end?.elim .flowing .ended := by
  cases event with
  | datagram datagram =>
    obtain ⟨queue, received, hframe⟩ := accept_frame socket datagram
    show (socket.accept datagram).2.stream = _
    rw [hframe]
    exact h
  | failure error =>
    show (socket.fail error).2.stream = _
    rw [fail, Event.end?]
    split
    · exact h
    · exact stream_finish h _
  | loss error => exact stream_finish h error

end Socket

namespace Timeline

variable {t u v : Timeline} {moments last : List Moment} {limits : Limits}
  {endsAt : Option Instant} {length : Option Span} {datagrams : List Datagram} {error : OsError}

/-! ## How the stream has ended -/

theorem stream_arrive (h : t.socket.stream = .flowing) (delivery : Delivery) :
    (t.arrive delivery).socket.stream =
      ((t.arrivals delivery).findSome? Moment.end?).elim .flowing .ended := by
  rw [socket_arrive, arrivals]
  split
  · rw [Socket.stream_handle h]
    show _ = Option.elim (List.findSome? Moment.end? [_]) _ _
    rw [List.findSome?_singleton]
    rfl
  · exact h

theorem Occurs.stream_eq (hstep : Occurs t last u) (h : t.socket.stream = .flowing) :
    u.socket.stream = (last.findSome? Moment.end?).elim .flowing .ended := by
  cases hstep with
  | clock | callDue => exact h
  | called delivery rest => exact stream_arrive (t := t.withCalled rest) h delivery
  | agenda delivery rest => exact stream_arrive (t := t.withAgenda rest) h delivery
  | event event =>
    rw [List.findSome?_singleton]
    exact Socket.stream_handle h event
  | close =>
    rw [socket_close]
    exact Socket.stream_finish h none
  | take =>
    obtain ⟨queue, hsocket, -⟩ := Socket.take_frame t.socket
    show t.socket.take.2.stream = _
    rw [hsocket]
    exact h

/-- The first end in a history of a stream is the end of the stream. -/
theorem History.stream_eq (hhistory : History t moments u) (h : t.socket.stream = .flowing) :
    u.socket.stream = (moments.findSome? Moment.end?).elim .flowing .ended := by
  induction hhistory with
  | nil => exact h
  | snoc _ hlast ih =>
    rw [List.findSome?_append]
    have hbefore := ih
    cases hend : List.findSome? Moment.end? _ with
    | none =>
      rw [hend] at hbefore
      exact hlast.stream_eq hbefore
    | some error =>
      rw [hend] at hbefore
      exact hlast.ended hbefore

theorem Occurs.name_eq (hstep : Occurs t last u) : u.socket.name = t.socket.name := by
  cases hstep with
  | clock | callDue => rfl
  | called delivery rest => exact (later_arrive (t.withCalled rest) delivery).name
  | agenda delivery rest => exact (later_arrive (t.withAgenda rest) delivery).name
  | event event => exact (later_handle t event).name
  | close =>
    obtain ⟨queue, stream, hframe⟩ := Socket.finish_frame t.socket none
    rw [socket_close, hframe]
    rfl
  | take => exact (later_take t).name

theorem History.name_eq (hhistory : History t moments u) : u.socket.name = t.socket.name := by
  induction hhistory with
  | nil => rfl
  | snoc _ hlast ih => exact hlast.name_eq.trans ih

/-- The end of the stream has come by an error, and no datagram is left in front of it. -/
def ComesToError (t : Timeline) (error : OsError) (u : Timeline) : Prop :=
  u.socket.datagrams = [] ∧
    ∃ moments, History t moments u ∧ moments.findSome? Moment.end? = some (some error)

theorem ComesToError.stream_eq (h : ComesToError t error u) (hnew : t.socket.IsNew) :
    u.socket.stream = .ended (some error) := by
  obtain ⟨-, moments, hhistory, hend⟩ := h
  rw [hhistory.stream_eq hnew.stream, hend]
  rfl

/-! ## Looking at the queue -/

/-- Where a receiver looks at the queue and finds something: at once, or after what was called, or
when its wait ends because of that. -/
def findsAt? (t : Timeline) (length : Option Span) : Option Timeline :=
  if t.socket.take.1.isSome then some t
  else if isOver length then none
  else if t.deliverCalled.isReady then some t.deliverCalled
  else
    match t.deliverCalled.wait (length.map t.deliverCalled.now.after) with
    | (.ready, found) => some found
    | _ => none

theorem passes_findsAt (h : t.findsAt? length = some u) : Passes t u := by
  rw [findsAt?] at h
  split at h
  · cases h
    exact .refl t
  · split at h
    · cases h
    · have hcalled := passes_deliverCalled t
      split at h
      · cases h
        exact hcalled
      · have hwait := passes_wait t.deliverCalled (length.map t.deliverCalled.now.after)
        split at h
        next wait_eq =>
          rw [wait_eq] at hwait
          cases h
          exact hcalled.trans hwait
        next => cases h

theorem take_of_not_isSome (h : ¬t.socket.take.1.isSome = true) : t.take = (none, t) := by
  have htake : t.socket.take = (none, t.socket) := by
    rw [Socket.take] at h ⊢
    split at h
    · exact absurd rfl h
    · exact absurd rfl h
    · split
      next hended =>
        rw [if_pos hended] at h
        exact absurd rfl h
      next => rfl
  rw [take, htake]
  rfl

/-- A receiver gets what it finds. -/
theorem receive_of_findsAt (h : t.findsAt? length = some u) :
    (t.receive (.value length)).1 = u.takeReady.1 ∧
      Passes u.takeReady.2 (t.receive (.value length)).2 := by
  rw [findsAt?] at h
  split at h
  next hfound =>
    cases h
    rw [receive_of_isSome hfound]
    exact ⟨rfl, .refl _⟩
  next hnothing =>
    split at h
    · cases h
    next hlength =>
      rw [receive, take_of_not_isSome hnothing]
      dsimp only
      rw [await, if_neg hlength]
      dsimp only
      split at h
      next hready =>
        cases h
        rw [if_pos hready]
        exact ⟨rfl, passes_resume _ _⟩
      next hready =>
        rw [if_neg hready]
        split at h
        next wait_eq =>
          cases h
          rw [wait_eq]
          exact ⟨rfl, .refl _⟩
        next => cases h

/-- A receiver that finds nothing runs out of time or is cancelled. -/
theorem receive_of_not_findsAt (h : t.findsAt? length = none) :
    (t.receive (.value length)).1 = .ok none ∨
      (t.receive (.value length)).1 = .error .cancelled := by
  rw [findsAt?] at h
  split at h
  · cases h
  next hnothing =>
    rw [receive, take_of_not_isSome hnothing]
    dsimp only
    rw [await]
    split at h
    next hlength =>
      rw [if_pos hlength]
      exact .inl rfl
    next hlength =>
      rw [if_neg hlength]
      dsimp only
      split at h
      · cases h
      next hready =>
        rw [if_neg hready]
        split at h
        · cases h
        next wait_ne =>
          split
          next wait_eq => exact absurd wait_eq (wait_ne _)
          next => exact .inl rfl
          next => exact .inr rfl

/-! ## At the end -/

/-- After the end of the stream nothing happens to the socket. -/
theorem Pass.socket_of_ended (h : Pass t u) (hended : t.socket.hasEnded = true) :
    u.socket = t.socket := by
  have harrive : ∀ (t : Timeline) (delivery : Delivery), t.socket.hasEnded = true →
      (t.arrive delivery).socket = t.socket := by
    intro t delivery hended
    rw [socket_arrive, Socket.handle_of_hasEnded hended, ite_self]
  cases h with
  | clock | callDue => rfl
  | called delivery rest => exact harrive (t.withCalled rest) delivery hended
  | agenda delivery rest => exact harrive (t.withAgenda rest) delivery hended

theorem Passes.socket_of_ended (h : Passes t u) (hended : t.socket.hasEnded = true) :
    u.socket = t.socket := by
  induction h with
  | refl => rfl
  | tail _ hlast ih => exact (hlast.socket_of_ended (ih ▸ hended)).trans ih

/-- Who receives at the end gets the error that brought it, and nothing is left behind. -/
theorem ComesToError.receive (hnew : t.socket.IsNew) (h : ComesToError t error u)
    (hfound : v.findsAt? length = some u) :
    (v.receive (.value length)).1 =
        .error (.transport (.receiveFailed t.socket.name error)) ∧
      (v.receive (.value length)).2.socket.datagrams = [] := by
  have hended := h.stream_eq hnew
  obtain ⟨hdatagrams, moments, hhistory, -⟩ := h
  have hname : u.socket.name = t.socket.name := hhistory.name_eq
  have hremains : u.socket.remains (some error) =
      .error (.transport (.receiveFailed t.socket.name error)) := by
    unfold Socket.remains
    rw [hdatagrams, hname]
  have htake := Socket.take_of_ended (hhistory.isAccountedBy hnew) hended
  have htaken : u.takeReady = (u.socket.remains (some error),
      u.use { u.socket with queue := u.socket.queue.tail }) := by
    rw [takeReady, take, htake]
  have hleft := u.socket.datagrams_take
  rw [htake, hdatagrams] at hleft
  obtain ⟨hresult, hpasses⟩ := receive_of_findsAt hfound
  rw [htaken] at hresult hpasses
  refine ⟨hresult.trans hremains, ?_⟩
  rw [hpasses.socket_of_ended (Socket.hasEnded_of_stream_eq hended)]
  exact (List.append_eq_nil_iff.1 hleft).2

/-- As long as the stream flows there is nothing to take but datagrams. -/
theorem take_of_flowing {capacity : Int} (h : t.socket.IsAccountedBy capacity moments)
    (hflowing : t.socket.stream = .flowing) :
    t.take.1 = t.socket.datagrams.head?.map fun datagram => .ok (some datagram) := by
  have hended : ¬t.socket.hasEnded = true := by
    rw [Socket.hasEnded, hflowing]
    decide
  have hqueue := h.queue_eq hended
  show t.socket.take.1 = _
  rw [Socket.take, hqueue]
  cases t.socket.datagrams with
  | nil => exact if_neg hended
  | cons datagram rest => rfl

/-- Only at the end does a receiver get an error of the transport. -/
theorem comesToError_of_receive (hnew : t.socket.IsNew) (hhistory : History t moments v)
    {name : SocketName} (h : (v.receive (.value length)).1 =
      .error (.transport (.receiveFailed name error))) :
    ∃ u, v.findsAt? length = some u ∧ ComesToError t error u := by
  cases hfound : v.findsAt? length with
  | none =>
    rcases receive_of_not_findsAt hfound with hnone | hcancelled
    · rw [hnone] at h
      cases h
    · rw [hcancelled] at h
      cases h
  | some u =>
    obtain ⟨others, hothers, -⟩ := (passes_findsAt hfound).hands
    have hhistory := hhistory.trans hothers
    rw [(receive_of_findsAt hfound).1, takeReady_eq] at h
    dsimp only at h
    have haccount := hhistory.isAccountedBy hnew
    have hstream := hhistory.stream_eq hnew.stream
    cases hend : List.findSome? Moment.end? (moments ++ others) with
    | none =>
      rw [hend] at hstream
      rw [take_of_flowing haccount hstream] at h
      cases hdatagrams : u.socket.datagrams <;> rw [hdatagrams] at h <;> cases h
    | some cause =>
      rw [hend] at hstream
      have htake : u.take.1 = some (u.socket.remains cause) :=
        congrArg Prod.fst (Socket.take_of_ended haccount hstream)
      rw [htake, Option.getD_some] at h
      unfold Socket.remains at h
      refine ⟨u, rfl, ?_⟩
      split at h
      · cases h
      next hdatagrams =>
        cases h
        exact ⟨hdatagrams, _, hhistory, hend⟩
      · cases h

/-! ## Collecting -/

/-- A collection makes requests one after another; this is where it makes one after it has taken
these datagrams. -/
inductive Requests (limits : Limits) (endsAt : Option Instant) :
    Timeline → List Datagram → Timeline → Prop
  | first (t : Timeline) : Requests limits endsAt t [] t
  | next {t u v : Timeline} {datagram : Datagram} {datagrams : List Datagram}
    (h : t.awaitNext limits endsAt = (.ok (some datagram), u))
    (hrest : Requests limits endsAt u datagrams v) :
    Requests limits endsAt t (datagram :: datagrams) v

/-- After it has taken these datagrams a collection looks at the queue, and there is something to
find: the datagrams that are left, or the end of the stream. -/
inductive LooksAt (t : Timeline) (limits : Limits) : Mode → List Datagram → Timeline → Prop
  | one {timeout : Timeout} {found : Timeline} (hresponse : limits.response = .value timeout)
    (hfound : t.findsAt? timeout.length = some found) : LooksAt t limits .one [] found
  | many {endsAt : Option Instant} {datagrams : List Datagram} {timeout : Timeout}
    {asking found : Timeline} (hends : t.endOf limits.total = .ok endsAt)
    (hrequests : Requests limits endsAt t datagrams asking) (hleft : asking.IsLeft endsAt)
    (hinactivity : limits.inactivity = .value timeout)
    (hfound : asking.findsAt? (timeout.within (endsAt.map (·.since asking.now))) = some found) :
    LooksAt t limits .many datagrams found

/-- What is taken was received. -/
theorem receive_of_awaitNext {datagram : Datagram}
    (h : t.awaitNext limits endsAt = (.ok (some datagram), u)) :
    ∃ length, t.receive (.value length) = (.ok (some datagram), u) := by
  unfold Timeline.awaitNext at h
  dsimp only at h
  split at h
  · cases h
  · split at h
    · exact ⟨_, h⟩
    · cases h

theorem Requests.hands (h : Requests limits endsAt t datagrams u) : Hands t datagrams u := by
  induction h with
  | first t => exact .refl t
  | @next asking _ _ _ _ h hrest ih =>
    obtain ⟨length, hreceive⟩ := receive_of_awaitNext h
    have hfirst := hands_receive asking (.value length)
    rw [hreceive] at hfirst
    exact hfirst.trans ih

/-- What a collection takes before a request does not depend on what comes of the request. -/
theorem Requests.awaitMany (h : Requests limits endsAt t datagrams u) :
    awaitMany limits endsAt t = (awaitMany limits endsAt u).behind datagrams := by
  induction h with
  | first t => rfl
  | next h hrest ih =>
    rw [awaitMany_of_some h, ih]
    rfl

theorem gather_one (t : Timeline) (limits : Limits) :
    t.gather .one limits =
      match t.receive (limits.response.map Timeout.length) with
      | (.ok (some datagram), u) => ⟨[datagram], none, u⟩
      | (.ok none, u) =>
        ⟨[], some (.noResponse u.socket.name (limits.response.textBy Timeout.text)), u⟩
      | (.error failure, u) => ⟨[], some failure, u⟩ := by
  rw [gather, awaitOne]
  rcases t.receive (limits.response.map Timeout.length) with ⟨failure | _ | datagram, u⟩ <;> rfl

theorem gather_many (h : t.endOf limits.total = .ok endsAt) :
    t.gather .many limits = awaitMany limits endsAt t := by
  rw [gather, h]

/-- A collection that comes to an error fails with it, after it has taken everything. -/
theorem ComesToError.gather (hnew : t.socket.IsNew) {mode : Mode} {found : Timeline}
    (h : ComesToError t error found) (hlooks : LooksAt t limits mode datagrams found) :
    ∃ after, t.gather mode limits =
        ⟨datagrams, some (.transport (.receiveFailed t.socket.name error)), after⟩ ∧
      Hands t datagrams after ∧ after.socket.datagrams = [] := by
  cases hlooks with
  | one hresponse hfound =>
    rename_i timeout
    obtain ⟨hresult, hnothing⟩ := h.receive hnew hfound
    have hhands := hands_receive t (.value timeout.length)
    rcases hreceive : t.receive (.value timeout.length) with ⟨result, after⟩
    rw [hreceive] at hresult hnothing hhands
    have hresult : result = _ := hresult
    subst hresult
    refine ⟨after, ?_, hhands, hnothing⟩
    rw [gather_one, hresponse, Setting.map, hreceive]
  | many hends hrequests hleft hinactivity hfound =>
    rename_i endsAt timeout asking
    have hnext := hleft.awaitNext hinactivity
    generalize timeout.within _ = length at hfound hnext
    obtain ⟨hresult, hnothing⟩ := h.receive hnew hfound
    have hhands := hrequests.hands.trans (hands_receive asking (.value length))
    rw [← hnext] at hresult hnothing hhands
    rcases hnext : asking.awaitNext limits endsAt with ⟨result, after⟩
    rw [hnext] at hresult hnothing hhands
    have hresult : result = _ := hresult
    subst hresult
    rw [handed, List.append_nil] at hhands
    refine ⟨after, ?_, hhands, hnothing⟩
    rw [gather_many hends, hrequests.awaitMany, awaitMany_of_error hnext, Collected.behind,
      List.append_nil]

/-- A collection that fails does so in a request. -/
theorem requests_of_awaitMany {failure : Failure}
    (h : (awaitMany limits endsAt t).failure = some failure) :
    ∃ datagrams asking, Requests limits endsAt t datagrams asking ∧
      (asking.awaitNext limits endsAt).1 = .error failure := by
  fun_induction awaitMany limits endsAt t with
  | case1 t other after hnext =>
    cases h
    exact ⟨[], t, .first t, by rw [hnext]⟩
  | case2 t after hnext => cases h
  | case3 t datagram after hnext hpending rest ih =>
    obtain ⟨datagrams, asking, hrequests, herror⟩ := ih h
    exact ⟨datagram :: datagrams, asking, .next hnext hrequests, herror⟩

theorem looksAt_of_gather_one (hnew : t.socket.IsNew) {name : SocketName}
    (h : (t.gather .one limits).failure = some (.transport (.receiveFailed name error))) :
    ∃ datagrams found, LooksAt t limits .one datagrams found ∧ ComesToError t error found := by
  have hreceived : (t.receive (limits.response.map Timeout.length)).1 =
      .error (.transport (.receiveFailed name error)) := by
    rw [gather_one] at h
    split at h
    · cases h
    · cases h
    next hreceive =>
      rw [hreceive, Option.some.inj h]
  cases hresponse : limits.response with
  | blank =>
    have htake : t.take = (none, t) := take_of_not_isSome (by simp [Socket.take, hnew.queue,
      Socket.hasEnded, hnew.stream])
    rw [hresponse, Setting.map, receive, htake] at hreceived
    cases hreceived
  | value timeout =>
    rw [hresponse] at hreceived
    obtain ⟨found, hfound, hcomes⟩ := comesToError_of_receive hnew (.nil t) hreceived
    exact ⟨[], found, .one hresponse hfound, hcomes⟩

theorem looksAt_of_gather_many (hnew : t.socket.IsNew) {name : SocketName}
    (h : (t.gather .many limits).failure = some (.transport (.receiveFailed name error))) :
    ∃ datagrams found, LooksAt t limits .many datagrams found ∧ ComesToError t error found := by
  cases hends : t.endOf limits.total with
  | error failure =>
    rw [gather, hends] at h
    cases htotal : limits.total with
    | value total =>
      rw [htotal] at hends
      cases hends
    | blank =>
      rw [htotal] at hends
      cases hends
      cases h
  | ok endsAt =>
    rw [gather_many hends] at h
    obtain ⟨datagrams, asking, hrequests, herror⟩ := requests_of_awaitMany h
    obtain ⟨moments, hhistory, -⟩ := hrequests.hands
    -- The last request raised the error, and so the time was not over before it.
    unfold Timeline.awaitNext at herror
    dsimp only at herror
    split at herror
    · cases herror
    next hleft =>
      split at herror
      next timeout hinactivity =>
        obtain ⟨found, hfound, hcomes⟩ := comesToError_of_receive hnew hhistory herror
        exact ⟨datagrams, found, .many hends hrequests (Bool.eq_false_of_not_eq_true hleft)
          hinactivity hfound, hcomes⟩
      · cases herror

/-- A collection fails with an error of the transport only if it comes to it. -/
theorem looksAt_of_gather (hnew : t.socket.IsNew) {mode : Mode} {name : SocketName}
    (h : (t.gather mode limits).failure = some (.transport (.receiveFailed name error))) :
    ∃ datagrams found, LooksAt t limits mode datagrams found ∧ ComesToError t error found := by
  cases mode with
  | one => exact looksAt_of_gather_one hnew h
  | many => exact looksAt_of_gather_many hnew h

/-! ## The whole exchange -/

theorem moves_gather (t : Timeline) (mode : Mode) (limits : Limits) :
    Moves t (t.gather mode limits).timeline := by
  cases mode with
  | one =>
    have hreceived := moves_receive t (limits.response.map Timeout.length)
    rw [gather_one]
    split
    next hreceive => rwa [hreceive] at hreceived
    next hreceive => rwa [hreceive] at hreceived
    next hreceive => rwa [hreceive] at hreceived
  | many =>
    rw [gather]
    split
    · exact moves_awaitMany limits _ t
    · exact .refl t

/-- An exchange has failed with an error of the transport. Everything that was accepted before has
been taken, and what was created is closed. -/
structure FailsWith (t : Timeline) (error : OsError) (datagrams : List Datagram)
    (outcome : Outcome (List Datagram)) : Prop where
  result : ∃ fault, outcome.1 = .error (.transport fault) ∧ fault.cause? = some (.system error)
  accepted : outcome.2.accepted = t.accepted ++ datagrams
  queue : outcome.2.socket.datagrams = []
  closes : ClosesAll t outcome.2

variable {destination : Destination} {allowed : Bool} {data : List UInt8} {mode : Mode}

theorem isNew_asked (hnew : t.socket.IsNew) (destination : Destination) (allowed : Bool)
    (data : List UInt8) : (t.asked destination allowed data).socket.IsNew :=
  ⟨hnew.queue, hnew.stream, hnew.received⟩

theorem flows_asked (t : Timeline) (destination : Destination) (allowed : Bool)
    (data : List UInt8) : Flows [] t (t.asked destination allowed data) := by
  have hattached : Flows [] t
      ((t.aim destination allowed).attach (Network.openedLink destination.family allowed)) :=
    flows_of_same rfl rfl
  have hopened : Flows [] _ (t.openedTo destination allowed) :=
    flows_note (by simp [Notice.IsSilent, Notice.tally])
  have hnoted : Flows [] (t.openedTo destination allowed)
      ((t.openedTo destination allowed).note [.sending t.socket.name destination data]) :=
    flows_note (by simp [Notice.IsSilent, Notice.tally])
  exact (hattached.trans hopened).trans (hnoted.trans (flows_of_same rfl rfl))

theorem snd_outcomeOf (gathered : Collected) :
    (outcomeOf gathered).2 = gathered.timeline.close := by
  rw [outcomeOf]
  split <;> rfl

/-- The socket over which a question got out is closed in the end. -/
theorem closesAll_outcomeOf (t : Timeline) (destination : Destination) (allowed : Bool)
    (data : List UInt8) (mode : Mode) (limits : Limits) :
    ClosesAll t (outcomeOf ((t.asked destination allowed data).gather mode limits)).2 := by
  have hlater := (moves_gather (t.asked destination allowed data) mode limits).later
  rw [snd_outcomeOf]
  exact closesAll_of_links (u := t.asked destination allowed data)
    ⟨Network.openedLink destination.family allowed, rfl, rfl, rfl⟩ hlater.closedLinks hlater.link

/-- A collection that comes to an error makes the exchange fail with it. -/
theorem failsWith_of_looksAt (hnew : t.socket.IsNew) {found : Timeline}
    (hlooks : LooksAt (t.asked destination allowed data) limits mode datagrams found)
    (hcomes : ComesToError (t.asked destination allowed data) error found) :
    FailsWith t error datagrams
      (outcomeOf ((t.asked destination allowed data).gather mode limits)) := by
  obtain ⟨after, hgather, hhands, hnothing⟩ :=
    hcomes.gather (isNew_asked hnew destination allowed data) hlooks
  have hcloses := closesAll_outcomeOf t destination allowed data mode limits
  rw [hgather] at hcloses ⊢
  have hqueue : after.close.socket.datagrams = [] := by
    rw [socket_close]
    exact (Socket.datagrams_finish _ _).trans hnothing
  obtain ⟨arrived, htaken, haccepted⟩ :=
    ((flows_asked t destination allowed data).trans hhands.flows).trans (flows_close after)
  have hstart : t.socket.datagrams = [] := by rw [Socket.datagrams, hnew.queue]; rfl
  rw [hqueue, hstart, List.append_nil, List.append_nil, List.nil_append, List.nil_append] at htaken
  exact ⟨⟨_, rfl, rfl⟩, by rw [htaken]; exact haccepted, hqueue, hcloses⟩

/-- An exchange that meets an obstacle fails at the first one, with the error that it raised for
its cause: of what was made only closed links are left, and nothing was sent. Without one the
question is out. Then the exchange fails with an error of the transport if its collection comes to
that error, and only then; what was accepted before is taken, and what was created is closed. -/
theorem collect_surfaces (t : Timeline) (name : SocketName) (broadcast : Option Bool)
    (capacity : Int) (data : List UInt8) (mode : Mode) (limits : Limits)
    (hvalid : t.network.localNetworks.AreValid) :
    let start := t.use (.new name broadcast capacity)
    let outcome := start.collect data mode limits
    match t.network.resolve name.host with
    | .error error => GivesUp start (some (.resolver error)) [] [] outcome
    | .ok [] => GivesUp start none [] [] outcome
    | .ok ((family, host) :: _) =>
      let destination := ⟨family, host, name.port⟩
      ∃ allowed, t.network.allows broadcast destination = .ok allowed ∧
        match t.network.obstacle? allowed with
        | some (stage, error) =>
          GivesUp start (some (.system error)) (stage.leaves family allowed)
            (stage.tells name destination allowed data) outcome
        | none =>
          let asked := start.asked destination allowed data
          (∀ error datagrams found, LooksAt asked limits mode datagrams found →
            ComesToError asked error found → FailsWith start error datagrams outcome) ∧
          ∀ socket error, outcome.1 = .error (.transport (.receiveFailed socket error)) →
            ∃ datagrams found, LooksAt asked limits mode datagrams found ∧
              ComesToError asked error found := by
  intro start outcome
  split
  next error hresolve =>
    have hopen : start.openSocket =
        (.error (.transport (.unresolved name.host (some error))), start) := by
      rw [openSocket]
      simp only [show start.network.resolve start.socket.name.host = _ from hresolve]
      rfl
    exact (givesUp_openSocket_of_unresolved hopen).collect data mode limits
  next hresolve =>
    have hopen : start.openSocket = (.error (.transport (.unresolved name.host none)), start) := by
      rw [openSocket]
      simp only [show start.network.resolve start.socket.name.host = _ from hresolve]
      rfl
    exact (givesUp_openSocket_of_unresolved hopen).collect data mode limits
  next family host others hresolve =>
    intro destination
    obtain ⟨allowed, hallows⟩ := Network.exists_allows hvalid broadcast destination
    have hopen : start.openSocket = (start.aim destination allowed).openTo destination allowed :=
      openSocket_of_allows (t := start) hresolve hallows
    refine ⟨allowed, hallows, ?_⟩
    split
    next stage error hobstacle => exact collect_of_obstacle (t := start) rfl hopen hobstacle
    next hobstacle =>
      intro asked
      have hcollect : outcome = outcomeOf (asked.gather mode limits) :=
        collect_of_no_obstacle (t := start) hopen hobstacle
      have hnew : start.socket.IsNew := Socket.isNew_new name broadcast capacity
      rw [hcollect]
      refine ⟨fun error datagrams found => failsWith_of_looksAt hnew, ?_⟩
      intro socket error hresult
      have hfailed : (asked.gather mode limits).failure =
          some (.transport (.receiveFailed socket error)) := by
        rw [outcomeOf] at hresult
        split at hresult
        next failure hfailure => rw [hfailure, Except.error.inj hresult]
        next => cases hresult
      exact looksAt_of_gather (isNew_asked hnew destination allowed data) hfailed

/-- A network on which a socket can be neither bound nor used. -/
def unbound : Network :=
  { Network.silent ⟨[], none, none⟩ with
    bindError := some ⟨98, "Address already in use"⟩
    sendError := some ⟨101, "Network is unreachable"⟩ }

/-- A network on which an answer is followed by an error. -/
def failing : Network :=
  { Network.silent ⟨[], none, none⟩ with
    replies := [("10.0.0.2", [⟨Span.ofMillis 5, .datagram none [5]⟩,
      ⟨Span.ofMillis 5, .failure ⟨5, "Input/output error"⟩⟩])] }

/-- A new socket for an exchange on a network. -/
def starting (network : Network) : Timeline :=
  (new network).use (.new ⟨"10.0.0.2", .value 1434⟩ none 1000)

/-- The first of two errors is the cause, and the socket is closed before it was bound; an error
behind an answer is the cause after the answer was taken. -/
theorem collect_surfaces_unbound_failing :
    unbound.localNetworks.AreValid ∧ failing.localNetworks.AreValid ∧
    GivesUp (starting unbound) (some (.system ⟨98, "Address already in use"⟩))
      [⟨.inet, false, none, false, true⟩] [] ((starting unbound).collect [2] .many .default) ∧
    ∃ datagrams, FailsWith (starting failing) ⟨5, "Input/output error"⟩ datagrams
      ((starting failing).collect [2] .many .default) := by
  have hvalid : LocalNetworks.AreValid ⟨[], none, none⟩ := by
    intro entry hentry
    cases hentry
  refine ⟨hvalid, hvalid, ?_, ?_⟩
  · have hresolve : (new unbound).network.resolve "10.0.0.2" = .ok [(.inet, "10.0.0.2")] := by
      decide +kernel
    have hsurfaces := collect_surfaces (new unbound) ⟨"10.0.0.2", .value 1434⟩ none 1000 [2] .many
      .default hvalid
    simp only [hresolve] at hsurfaces
    obtain ⟨allowed, hallows, hgives⟩ := hsurfaces
    obtain rfl : false = allowed := Except.ok.inj (Eq.trans (by decide +kernel) hallows)
    exact hgives
  · have hresolve : (new failing).network.resolve "10.0.0.2" = .ok [(.inet, "10.0.0.2")] := by
      decide +kernel
    have hsurfaces := collect_surfaces (new failing) ⟨"10.0.0.2", .value 1434⟩ none 1000 [2] .many
      .default hvalid
    simp only [hresolve] at hsurfaces
    obtain ⟨allowed, hallows, hfails⟩ := hsurfaces
    obtain rfl : false = allowed := Except.ok.inj (Eq.trans (by decide +kernel) hallows)
    obtain ⟨hreports, hreached⟩ := hfails
    obtain ⟨datagrams, found, hlooks, hcomes⟩ :=
      hreached ⟨"10.0.0.2", .value 1434⟩ ⟨5, "Input/output error"⟩ (by decide +kernel)
    exact ⟨datagrams, hreports _ datagrams found hlooks hcomes⟩

end Timeline

end SqlResolution
