import SqlResolution.Proofs.Exchange
import SqlResolution.Proofs.LocalNetworks

/-!
# How far a question comes

A question is out once an address was found for the name of the host, a socket was opened
towards it, and the question was sent. The first of these steps that fails decides what the
failure is, and it depends on the network alone. A question that does not get out takes no
time, and leaves nothing open once its socket is closed; one that does finds a new socket
that is open, and all replies on the agenda.
-/

namespace SqlResolution

/-! ## The way of a question -/

namespace Network

/-- Whether a socket towards a destination has to be allowed to broadcast. -/
def allows (network : Network) (broadcast : Option Bool) (destination : Destination) :
    Except Address.V4Fault Bool :=
  match broadcast with
  | some decided => .ok decided
  | none => network.needsBroadcast destination

/-- Whether a question to a destination gets out, and if not, why. -/
def attempt (network : Network) (name : SocketName) (broadcast : Option Bool)
    (destination : Destination) : Except Failure Destination :=
  match network.allows broadcast destination with
  | .error fault => .error (.interfaceAddress fault)
  | .ok allowed =>
    match network.openLink destination.family allowed, network.sendError with
    | .failed error _, _ => .error (.transport (.cannotOpen name error))
    | .opened _, some error => .error (.transport (.sendFailed name error))
    | .opened _, none => .ok destination

/-- Where a question to a host goes, or what keeps it from getting out. -/
def reach (network : Network) (name : SocketName) (broadcast : Option Bool) :
    Except Failure Destination :=
  match network.resolve name.host with
  | .error error => .error (.transport (.unresolved name.host (some error)))
  | .ok [] => .error (.transport (.unresolved name.host none))
  | .ok ((family, host) :: _) => network.attempt name broadcast ⟨family, host, name.port⟩

/-- With valid interfaces it can be decided who may broadcast. -/
theorem exists_allows {network : Network} (hvalid : network.localNetworks.AreValid)
    (broadcast : Option Bool) (destination : Destination) :
    ∃ allowed, network.allows broadcast destination = .ok allowed := by
  unfold allows
  split
  · exact ⟨_, rfl⟩
  · rw [needsBroadcast]
    split
    · obtain ⟨answer, hanswer, -⟩ := LocalNetworks.isBroadcast_iff hvalid destination.host
      exact ⟨answer, hanswer⟩
    · exact ⟨false, rfl⟩

/-- With valid interfaces it is always the transport that fails. -/
theorem exists_transport_of_reach {network : Network} {name : SocketName}
    {broadcast : Option Bool} {failure : Failure} (hvalid : network.localNetworks.AreValid)
    (h : network.reach name broadcast = .error failure) :
    ∃ fault, failure = .transport fault := by
  rw [reach] at h
  split at h
  · cases h
    exact ⟨_, rfl⟩
  · cases h
    exact ⟨_, rfl⟩
  next family host _ _ =>
    obtain ⟨allowed, hallowed⟩ := exists_allows hvalid broadcast ⟨family, host, name.port⟩
    rw [attempt, hallowed] at h
    dsimp only at h
    split at h
    · cases h
      exact ⟨_, rfl⟩
    · cases h
      exact ⟨_, rfl⟩
    · cases h

end Network

namespace Timeline

variable {t u v : Timeline} {destination : Destination}

/-- What was created since, and is closed by now. -/
def ClosesAll (t u : Timeline) : Prop :=
  ∃ created : List Bool, u.closedLinks = t.closedLinks ++ created ∧
    ∀ isClosed ∈ created, isClosed = true

/-- Nothing was begun: no time has passed, no state is told of, and nothing is open. -/
structure Fails (t u : Timeline) : Prop where
  now : u.now = t.now
  states : u.states = t.states
  link : u.socket.link = none
  closes : ClosesAll t u

/-- The socket in use was opened towards a destination. -/
structure Opens (t : Timeline) (destination : Destination) (u : Timeline) : Prop where
  network : u.network = t.network
  now : u.now = t.now
  cancelAt : u.cancelAt = t.cancelAt
  called : u.called = t.called
  agenda : u.agenda = t.agenda
  states : u.states = t.states
  links : ∃ link, link.isConnected = true ∧ link.isClosed = false ∧ u.links = t.links ++ [link]
  socket : ∃ broadcast, u.socket =
    { t.socket with
      destination := some destination
      broadcast := some broadcast
      link := some t.links.length }

theorem ClosesAll.append {links : List Link} (hclosed : ∀ link ∈ links, link.isClosed = true)
    (h : u.closedLinks = t.closedLinks ++ links.map (·.isClosed)) : ClosesAll t u := by
  refine ⟨links.map (·.isClosed), h, ?_⟩
  intro isClosed hmem
  obtain ⟨link, hlink, rfl⟩ := List.mem_map.1 hmem
  exact hclosed link hlink

theorem Fails.of_closedLinks_eq (hnow : u.now = t.now) (hstates : u.states = t.states)
    (hlink : u.socket.link = none) (hclosed : u.closedLinks = t.closedLinks) : Fails t u :=
  ⟨hnow, hstates, hlink, [], by rw [hclosed, List.append_nil], by simp⟩

theorem isConnected_of_openLink_opened {network : Network} {family : Family} {broadcast : Bool}
    {link : Link} (h : network.openLink family broadcast = .opened link) :
    link.isConnected = true := by
  rw [Network.openLink] at h
  split at h
  · cases h
  · split at h
    · cases h
    · split at h
      · cases h
      · dsimp only at h
        split at h
        · cases h
        · cases h
          rfl

def aim (t : Timeline) (destination : Destination) (broadcast : Bool) : Timeline :=
  t.use { t.socket with destination := some destination, broadcast := some broadcast }

/-- What was opened before the fault is closed again. -/
theorem openTo_eq_of_failed (hlink : t.socket.link = none) {broadcast : Bool} {error : OsError}
    {closed : Option Link}
    (hopening : t.network.openLink destination.family broadcast = .failed error closed) :
    t.openTo destination broadcast = (.error (.transport (.cannotOpen t.socket.name error)),
      { t with links := t.links ++ closed.toList, socket := t.socket.finish none }) := by
  have hclose : close { t with links := t.links ++ closed.toList } =
      { t with links := t.links ++ closed.toList, socket := t.socket.finish none } :=
    close_of_no_link hlink
  obtain ⟨queue, stream, hfinish⟩ := Socket.finish_frame t.socket none
  rw [openTo, hopening]
  dsimp only
  rw [hclose]
  dsimp only
  rw [hfinish]

theorem openTo_of_failed (hlink : t.socket.link = none) {broadcast : Bool} {error : OsError}
    {closed : Option Link}
    (hopening : t.network.openLink destination.family broadcast = .failed error closed) :
    ∃ u, t.openTo destination broadcast =
      (.error (.transport (.cannotOpen t.socket.name error)), u) ∧ Fails t u :=
  ⟨_, openTo_eq_of_failed hlink hopening, rfl, rfl, (Socket.link_finish _ _).trans hlink,
    .append (isClosed_of_openLink_failed hopening) (closedLinks_append t closed.toList)⟩

theorem openTo_aim_of_opened {broadcast : Bool} {link : Link}
    (hopening : t.network.openLink destination.family broadcast = .opened link) :
    ∃ u, (t.aim destination broadcast).openTo destination broadcast = (.ok (), u) ∧
      Opens t destination u := by
  have hopening' : (t.aim destination broadcast).network.openLink destination.family broadcast =
      .opened link := hopening
  rw [openTo, hopening']
  refine ⟨_, rfl, rfl, rfl, rfl, rfl, rfl, states_note_of_silent ?_, ⟨link, ?_, ?_, rfl⟩,
    broadcast, rfl⟩
  · simp [Notice.newState?]
  · exact isConnected_of_openLink_opened hopening
  · exact isClosed_of_openLink_opened hopening

theorem decideBroadcast_eq (t : Timeline) (destination : Destination) :
    t.decideBroadcast destination = t.network.allows t.socket.broadcast destination := by
  cases hdecided : t.socket.broadcast <;> simp only [decideBroadcast, Network.allows, hdecided]

/-- The first address that is found for the host is the one that is asked. -/
theorem openSocket_of_resolve {family : Family} {host : String} {others : List (Family × String)}
    (hresolve : t.network.resolve t.socket.name.host = .ok ((family, host) :: others)) :
    t.openSocket =
      match t.network.allows t.socket.broadcast ⟨family, host, t.socket.name.port⟩ with
      | .error fault => (.error (.interfaceAddress fault),
          t.use { t.socket with destination := some ⟨family, host, t.socket.name.port⟩ })
      | .ok allowed =>
        (t.aim ⟨family, host, t.socket.name.port⟩ allowed).openTo
          ⟨family, host, t.socket.name.port⟩ allowed := by
  rw [openSocket]
  simp only [hresolve, decideBroadcast_eq]
  rfl

/-- A socket is opened towards the address that was found, or what keeps a question from getting
out has come up. -/
theorem openSocket_cases (hlink : t.socket.link = none) :
    (∃ destination u, t.openSocket = (.ok (), u) ∧ Opens t destination u ∧
      t.network.reach t.socket.name t.socket.broadcast =
        match t.network.sendError with
        | some error => .error (.transport (.sendFailed t.socket.name error))
        | none => .ok destination) ∨
    ∃ failure u, t.openSocket = (.error failure, u) ∧ Fails t u ∧
      t.network.reach t.socket.name t.socket.broadcast = .error failure := by
  have hfails : ∀ socket : Socket, socket.link = t.socket.link → Fails t (t.use socket) :=
    fun socket hsame => .of_closedLinks_eq rfl rfl (hsame.trans hlink) rfl
  cases hresolve : t.network.resolve t.socket.name.host with
  | error error =>
    refine .inr ⟨.transport (.unresolved t.socket.name.host (some error)), t, ?_, hfails _ rfl, ?_⟩
    · simp only [openSocket, hresolve]
    · simp only [Network.reach, hresolve]
  | ok addresses =>
    cases addresses with
    | nil =>
      refine .inr ⟨.transport (.unresolved t.socket.name.host none), t, ?_, hfails _ rfl, ?_⟩
      · simp only [openSocket, hresolve]
      · simp only [Network.reach, hresolve]
    | cons first others =>
      obtain ⟨family, host⟩ := first
      have hreach : t.network.reach t.socket.name t.socket.broadcast =
          t.network.attempt t.socket.name t.socket.broadcast
            ⟨family, host, t.socket.name.port⟩ := by
        simp only [Network.reach, hresolve]
      have hopen := openSocket_of_resolve hresolve
      generalize (⟨family, host, t.socket.name.port⟩ : Destination) = destination at hopen hreach
      rw [hopen, hreach, Network.attempt]
      split
      · exact .inr ⟨_, _, rfl, hfails _ rfl, rfl⟩
      next broadcast _ =>
        cases hopening : t.network.openLink destination.family broadcast with
        | failed error closed =>
          obtain ⟨u, hopened, hfailed⟩ :=
            openTo_of_failed (t := t.aim destination broadcast) hlink hopening
          refine .inr ⟨.transport (.cannotOpen t.socket.name error), u, hopened, ?_, rfl⟩
          exact ⟨hfailed.now, hfailed.states, hfailed.link, hfailed.closes⟩
        | opened link =>
          obtain ⟨u, hopened, hopens⟩ := openTo_aim_of_opened hopening
          refine .inl ⟨destination, u, hopened, hopens, ?_⟩
          cases t.network.sendError <;> rfl

/-! ## Asking -/

/-- The answers to a question, each with the instant at which it comes. -/
def answers (t : Timeline) (destination : Destination) : List (Instant × Event) :=
  (t.network.repliesOf destination.host).map fun reply =>
    (t.now.after reply.after, reply.answer.event destination.peer)

/-- An answer on its way to a link. -/
def onTheWay (link : Nat) (answer : Instant × Event) : Delivery :=
  ⟨answer.1, link, answer.2⟩

/-- A question was sent over a new socket, and nothing but its answers is on the way. -/
structure Asks (t : Timeline) (destination : Destination) (u : Timeline) : Prop where
  network : u.network = t.network
  now : u.now = t.now
  cancelAt : u.cancelAt = t.cancelAt
  called : u.called = t.called
  agenda : u.agenda =
    (Schedule.inOrder Prod.fst (t.answers destination)).map (onTheWay t.links.length)
  states : u.states = t.states
  links : ∃ link, link.isConnected = true ∧ link.isClosed = false ∧ u.links = t.links ++ [link]
  socket : ∃ broadcast, u.socket =
    { t.socket with
      destination := some destination
      broadcast := some broadcast
      link := some t.links.length
      sentAt := some t.now }

theorem agenda_dispatch (h : t.agenda = []) (link : Nat) (data : List UInt8) :
    (t.dispatch link destination data).agenda =
      (Schedule.inOrder Prod.fst (t.answers destination)).map (onTheWay link) := by
  have hdeliveries :
      t.deliveries link destination = (t.answers destination).map (onTheWay link) := by
    rw [deliveries, answers, List.map_map]
    rfl
  show (t.deliveries link destination).foldl _ t.agenda = _
  rw [h, hdeliveries]
  exact Schedule.foldl_insert_eq Prod.fst (onTheWay link) _ fun _ _ _ _ => Iff.rfl

/-- Over an open socket a question is sent, unless the network keeps it from that. -/
theorem send_of_opens (h : Opens t destination u) (hagenda : t.agenda = []) (data : List UInt8) :
    (∃ v, t.network.sendError = none ∧ u.send data = (.ok (), v) ∧ Asks t destination v) ∨
    ∃ error, t.network.sendError = some error ∧
      u.send data = (.error (.transport (.sendFailed t.socket.name error)),
        u.note [.sending t.socket.name destination data]) := by
  obtain ⟨broadcast, hsocket⟩ := h.socket
  have hlink : u.socket.link = some t.links.length := by rw [hsocket]
  have hdestination : u.socket.destination = some destination := by rw [hsocket]
  have hname : u.socket.name = t.socket.name := by rw [hsocket]
  have hnetwork : (u.note [.sending t.socket.name destination data]).network = t.network :=
    h.network
  have hanswers : (u.note [.sending t.socket.name destination data]).answers destination =
      t.answers destination := by
    rw [answers, answers, hnetwork, ← h.now]
    rfl
  have hagenda : (u.note [.sending t.socket.name destination data]).agenda = [] :=
    h.agenda.trans hagenda
  rw [send, hlink, hdestination, hname]
  dsimp only
  rw [hnetwork, socket_note, hname]
  cases hsend : t.network.sendError with
  | some error => exact .inr ⟨error, rfl, rfl⟩
  | none =>
    refine .inl ⟨_, rfl, rfl, h.network, h.now, h.cancelAt, h.called, ?_, ?_, h.links, ?_⟩
    · rw [agenda_dispatch hagenda, hanswers]
    · exact (states_note_of_silent (by simp [Notice.newState?])).trans h.states
    · refine ⟨broadcast, ?_⟩
      show { u.socket with sentAt := some u.now } = _
      rw [hsocket, h.now]

theorem Asks.isConnected (h : Asks t destination u) : u.isConnected t.links.length = true := by
  obtain ⟨link, hconnected, -, hlinks⟩ := h.links
  rw [Timeline.isConnected, hlinks, List.getElem?_concat_length, Option.map_some, hconnected]
  rfl

theorem closesAll_close (hclosed : u.closedLinks = t.closedLinks ++ [false])
    (hlink : u.socket.link = some t.links.length) : ClosesAll t u.close := by
  refine ⟨[true], ?_, by simp⟩
  have hlength : t.links.length = t.closedLinks.length := (List.length_map _).symm
  rw [close_of_link hlink]
  show (u.dropLink t.links.length).closedLinks = _
  rw [closedLinks_dropLink, hclosed, hlength, List.set_append_right _ _ (Nat.le_refl _),
    Nat.sub_self]
  rfl

theorem closesAll_of_links {t u v : Timeline}
    (hlinks : ∃ link, link.isConnected = true ∧ link.isClosed = false ∧ u.links = t.links ++ [link])
    (hclosed : v.closedLinks = u.closedLinks) (hlink : v.socket.link = some t.links.length) :
    ClosesAll t v.close := by
  obtain ⟨link, -, hopen, hlinks⟩ := hlinks
  refine closesAll_close ?_ hlink
  rw [hclosed, closedLinks, hlinks, List.map_append, List.map_singleton, hopen]
  rfl

end Timeline

end SqlResolution
