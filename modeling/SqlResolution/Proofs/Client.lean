import SqlResolution.Client
import SqlResolution.Proofs.Browse.Ownership
import SqlResolution.Proofs.Lookup
import SqlResolution.Proofs.Request

/-!
# What a call puts on the wire

A call writes its request before anything else. One that cannot be written leaves no trace on
the network. Otherwise a socket is opened, which creates at most one link and sends nothing, and
one datagram goes out, if it comes to that. From then on the call waits and reads, and neither
of these touches the network: so whatever the call comes to, there is one link at most, and one
datagram at most, with the bytes of the request for the first address of the host.
-/

namespace SqlResolution

namespace Network

/-- What a question reaches is the first address of the host. -/
theorem resolve_of_reach {network : Network} {name : SocketName} {broadcast : Option Bool}
    {destination : Destination} (h : network.reach name broadcast = .ok destination) :
    ∃ family address others, network.resolve name.host = .ok ((family, address) :: others) ∧
      destination = ⟨family, address, name.port⟩ := by
  rw [reach] at h
  split at h
  · cases h
  · cases h
  next family address others hresolve =>
    refine ⟨family, address, others, hresolve, ?_⟩
    rw [attempt] at h
    split at h
    · cases h
    · split at h
      · cases h
      · cases h
      · exact (Except.ok.inj h).symm

end Network

namespace Timeline

variable {t u v : Timeline} {links more : Nat} {sent later : List Sent}

/-- What was done on the network from one timeline to another: no more than so many links were
created, and just these datagrams were sent. -/
structure Emits (t : Timeline) (links : Nat) (sent : List Sent) (u : Timeline) : Prop where
  links : u.links.length ≤ t.links.length + links
  sent : u.sent = t.sent ++ sent

theorem Emits.trans (h : Emits t links sent u) (h' : Emits u more later v) :
    Emits t (links + more) (sent ++ later) v where
  links := by
    have hfirst := h.links
    have hsecond := h'.links
    omega
  sent := by rw [h'.sent, h.sent, List.append_assoc]

theorem emits_of_same (hlinks : u.links.length = t.links.length) (hsent : u.sent = t.sent) :
    Emits t 0 [] u :=
  ⟨Nat.le_of_eq hlinks, hsent.trans (List.append_nil _).symm⟩

theorem Later.emits (h : Later t u) : Emits t 0 [] u :=
  emits_of_same (Browse.length_links_of_later h) h.sent

theorem emits_note (t : Timeline) (notices : List Notice) : Emits t 0 [] (t.note notices) :=
  emits_of_same rfl rfl

theorem sent_close (t : Timeline) : t.close.sent = t.sent := by
  cases hlink : t.socket.link with
  | none =>
    rw [close_of_no_link hlink]
    rfl
  | some link =>
    rw [close_of_link hlink]
    exact (later_arrive (t.use { t.socket with link := none }) ⟨t.now, link, .loss none⟩).sent

theorem emits_close (t : Timeline) : Emits t 0 [] t.close :=
  emits_of_same (Browse.length_links_close t) (sent_close t)

theorem sent_openTo (t : Timeline) (destination : Destination) (broadcast : Bool) :
    (t.openTo destination broadcast).2.sent = t.sent := by
  rw [openTo]
  split
  · exact sent_close _
  · rfl

theorem sent_openSocket (t : Timeline) : t.openSocket.2.sent = t.sent := by
  rw [openSocket]
  dsimp only
  split
  · rfl
  · rfl
  · split
    · rfl
    · exact sent_openTo _ _ _

/-- Opening a socket creates its link, and sends nothing. -/
theorem emits_openSocket (t : Timeline) : Emits t 1 [] t.openSocket.2 :=
  ⟨(Browse.addsLink_openSocket t).atMostOne, (sent_openSocket t).trans (List.append_nil _).symm⟩

/-- A question that was asked over an open socket goes to its destination, unless the network keeps
it from that. -/
theorem emits_send {destination : Destination} (h : Opens t destination u) (data : List UInt8) :
    Emits u 0
      (if t.network.sendError = none then [⟨destination.host, destination.port, data, t.now⟩]
        else [])
      (u.send data).2 := by
  obtain ⟨broadcast, hsocket⟩ := h.socket
  have hlink : u.socket.link = some t.links.length := by rw [hsocket]
  have hdestination : u.socket.destination = some destination := by rw [hsocket]
  have hnetwork : ∀ notices, (u.note notices).network = t.network := fun _ => h.network
  rw [send, hlink, hdestination]
  dsimp only
  rw [hnetwork]
  cases t.network.sendError with
  | some error => exact emits_note u _
  | none =>
    refine ⟨Nat.le_refl _, ?_⟩
    rw [← h.now]
    rfl

end Timeline

namespace Lookup

open Timeline

/-- What a lookup sends: the bytes of its request, if it can be written and the question gets
out. -/
def question (lookup : Lookup) : List Sent :=
  match lookup.request.encode, lookup.timeline.network.reach lookup.name none with
  | .ok data, .ok destination => [⟨destination.host, destination.port, data, lookup.timeline.now⟩]
  | _, _ => []

theorem emits_setState (lookup : Lookup) (state : State) :
    Emits lookup.timeline 0 [] (lookup.setState state).timeline :=
  emits_note lookup.timeline _

theorem emits_await (lookup : Lookup) : Emits lookup.timeline 0 [] lookup.await.2.timeline := by
  have hreceived := (moves_receive lookup.awaiting.timeline
    (lookup.response.map Timeout.length)).later.emits
  have hwaiting := (lookup.emits_setState .requestSent).trans
    (emits_setState _ .awaitingOne)
  have hawaited : (lookup.awaiting.timeline.awaitOne lookup.response).2 =
      (lookup.awaiting.timeline.receive (lookup.response.map Timeout.length)).2 := by
    rw [awaitOne]
    split
    next hreceive => rw [hreceive]
    next hreceive => rw [hreceive]
    next hreceive => rw [hreceive]
  rw [← hawaited] at hreceived
  have hbefore := hwaiting.trans hreceived
  rw [await_eq, settle]
  split
  · exact hbefore.trans (emits_note _ _)
  · exact hbefore

theorem emits_ask (lookup : Lookup) {t : Timeline} {destination : Destination}
    (h : Opens t destination lookup.timeline) (data : List UInt8) :
    Emits lookup.timeline 0
      (if t.network.sendError = none then [⟨destination.host, destination.port, data, t.now⟩]
        else [])
      (lookup.ask data).2.timeline := by
  have hsend := emits_send h data
  generalize (if t.network.sendError = none then _ else _) = sent at hsend ⊢
  rw [ask]
  dsimp only
  split
  · exact hsend
  · have hawait :=
      hsend.trans (emits_await { lookup with timeline := (lookup.timeline.send data).2 })
    rw [List.append_nil] at hawait
    exact hawait

theorem emits_exchange (lookup : Lookup) {data : List UInt8}
    (hdata : lookup.request.encode = .ok data) :
    Emits lookup.timeline 1 lookup.question (lookup.exchange data).2.timeline := by
  have hopening : Emits lookup.timeline 1 [] lookup.opening.openSocket.2 := by
    have hopen := emits_openSocket lookup.opening
    exact ⟨hopen.links, hopen.sent⟩
  rcases openSocket_cases (t := lookup.opening) rfl with ⟨destination, u, hopen, hopens, hreach⟩ |
    ⟨failure, u, hopen, -, hreach⟩
  · have hquestion : lookup.question =
        if lookup.opening.network.sendError = none then
          [⟨destination.host, destination.port, data, lookup.opening.now⟩]
        else [] := by
      rw [question, hdata, show lookup.timeline.network.reach lookup.name none = _ from hreach]
      cases lookup.opening.network.sendError <;> rfl
    have hexchange : lookup.exchange data =
        closed (Lookup.ask { lookup with timeline := u } data) := by
      rw [exchange, show (lookup.timeline.use _).openSocket = _ from hopen]
      rfl
    rw [hopen] at hopening
    rw [hquestion, hexchange]
    have hasked := (hopening.trans (emits_ask { lookup with timeline := u } hopens data)).trans
      (emits_close _)
    rw [List.nil_append, List.append_nil] at hasked
    exact hasked
  · rw [hopen] at hopening
    rw [question, hdata, show lookup.timeline.network.reach lookup.name none = _ from hreach,
      exchange, show (lookup.timeline.use _).openSocket = _ from hopen]
    exact hopening

/-- A lookup creates one link at most, and sends its question at most. -/
theorem emits_run (lookup : Lookup) (hidle : lookup.state = .idle) :
    Emits lookup.timeline 1 lookup.question lookup.run.2.timeline := by
  rw [run_of_idle hidle]
  cases hencode : lookup.request.encode with
  | error fault =>
    rw [question, answer, hencode]
    exact ⟨Nat.le_succ _, (List.append_nil _).symm⟩
  | ok data =>
    have hanswer : lookup.answer = lookup.exchange data := by
      rw [answer, hencode]
    have hrun := emits_exchange lookup hencode
    rw [hanswer]
    exact ⟨hrun.links, hrun.sent⟩

/-- A lookup whose request cannot be written leaves no trace on the network. -/
theorem run_of_encode_error (lookup : Lookup) (hidle : lookup.state = .idle)
    {fault : Request.NameFault} (h : lookup.request.encode = .error fault) :
    lookup.run.1 = .error (.encoding (.name fault)) ∧
      lookup.run.2.timeline.links = lookup.timeline.links ∧
      lookup.run.2.timeline.sent = lookup.timeline.sent := by
  rw [run_of_idle hidle, answer, h]
  exact ⟨rfl, rfl, rfl⟩

end Lookup

namespace Client

open Timeline

variable {client : Client} {t : Timeline} {host : String} {request : Request}

/-- What a lookup handed out is read, which at most is noted. -/
theorem find_eq (client : Client) (t : Timeline) (host : String) (request : Request) :
    (∃ notices, (client.find t host request).2 = (client.lookup t host request).2.note notices) ∧
      ∀ failure, (client.lookup t host request).1 = .error failure →
        (client.find t host request).1 = .error failure := by
  have hsilent : ∀ u : Timeline, u = u.note [] := by
    intro u
    rw [note, List.map_nil, List.append_nil]
  have hfor : ∀ request, (∃ notices, (client.instancesFor t host request).2 =
      (client.lookup t host request).2.note notices) ∧
      ∀ failure, (client.lookup t host request).1 = .error failure →
        (client.instancesFor t host request).1 = .error failure := by
    intro request
    rw [instancesFor]
    split
    next failure u hlookup =>
      rw [hlookup]
      exact ⟨⟨[], hsilent u⟩, fun _ h => by cases h; rfl⟩
    next answer u hlookup =>
      rw [hlookup]
      exact ⟨⟨_, rfl⟩, fun _ h => by cases h⟩
  cases request with
  | enumerate =>
    obtain ⟨hnotes, hfails⟩ := hfor .enumerate
    refine ⟨hnotes, fun failure h => ?_⟩
    show ((client.instancesFor t host .enumerate).1.map Found.instances) = _
    rw [hfails failure h]
    rfl
  | named name =>
    obtain ⟨hnotes, hfails⟩ := hfor (.named name)
    refine ⟨hnotes, fun failure h => ?_⟩
    show ((client.instancesFor t host (.named name)).1.bind (select host name)).map Found.named = _
    rw [hfails failure h]
    rfl
  | adminPort name =>
    refine ⟨⟨[], hsilent _⟩, fun failure h => ?_⟩
    show (((client.lookup t host (.adminPort name)).1.bind (readAdminPort host name)).map
      Found.adminPort) = _
    rw [h]
    rfl

/-- What a call puts on the wire: the bytes of its request for the host, if the request can be
written and gets out. -/
def question (client : Client) (t : Timeline) (host : String) (request : Request) : List Sent :=
  (Lookup.new t ⟨host, client.port⟩ request client.limits.response).question

theorem emits_find (client : Client) (t : Timeline) (host : String) (request : Request) :
    Emits t 1 (client.question t host request) (client.find t host request).2 := by
  obtain ⟨⟨notices, hfind⟩, -⟩ := find_eq client t host request
  have hlookup : Emits t 1 (client.question t host request) (client.lookup t host request).2 :=
    Lookup.emits_run (.new t ⟨host, client.port⟩ request client.limits.response) rfl
  rw [hfind]
  exact ⟨hlookup.links, hlookup.sent⟩

/-- What a call puts on the wire goes to the first address that is found for the host. -/
theorem question_eq (client : Client) (t : Timeline) (host : String) {request : Request}
    (hfit : request.IsFit) {destination : Destination}
    (hreach : t.network.reach ⟨host, client.port⟩ none = .ok destination) :
    ∃ family address others data, t.network.resolve host = .ok ((family, address) :: others) ∧
      Request.decode data = .ok request ∧
      client.question t host request = [⟨address, client.port, data, t.now⟩] := by
  obtain ⟨data, hencode, hdecode⟩ := Request.decode_encode_of_isFit hfit
  obtain ⟨family, address, others, hresolve, rfl⟩ := Network.resolve_of_reach hreach
  refine ⟨family, address, others, data, hresolve, hdecode, ?_⟩
  show Lookup.question _ = _
  rw [Lookup.question, Lookup.new]
  dsimp only
  rw [hencode, hreach]

theorem question_of_error (client : Client) (t : Timeline) (host : String) {request : Request}
    {failure : Failure} (hreach : t.network.reach ⟨host, client.port⟩ none = .error failure) :
    client.question t host request = [] := by
  show Lookup.question _ = _
  rw [Lookup.question, Lookup.new]
  dsimp only
  rw [hreach]
  split
  next h => cases h
  next => rfl

/-- A request that is not fit is refused before anything else happens. -/
theorem find_of_not_isFit (h : ¬request.IsFit) :
    (∃ fault, (client.find t host request).1 = .error (.encoding (.name fault))) ∧
      (client.find t host request).2.links = t.links ∧
      (client.find t host request).2.sent = t.sent := by
  obtain ⟨fault, hfault⟩ := Request.encode_of_not_isFit h
  obtain ⟨hresult, hlinks, hsent⟩ := Lookup.run_of_encode_error
    (.new t ⟨host, client.port⟩ request client.limits.response) rfl hfault
  obtain ⟨⟨notices, hfind⟩, hfails⟩ := find_eq client t host request
  rw [hfind]
  exact ⟨⟨fault, hfails _ hresult⟩, hlinks, hsent⟩

/-- A call creates one socket at most, and sends one datagram at most: to the first address of the
host and the port of the client, with bytes that read as just the request that was asked. A
request that is not fit is refused, and neither happens. One that is fit is sent whenever a
socket can be opened and sending does not fail, whatever comes of it. -/
theorem find_wire (client : Client) (t : Timeline) (host : String) (request : Request) :
    let outcome := client.find t host request
    outcome.2.links.length ≤ t.links.length + 1 ∧
      (outcome.2.sent = t.sent ∨ ∃ family address others data,
        t.network.resolve host = .ok ((family, address) :: others) ∧
        Request.decode data = .ok request ∧
        outcome.2.sent = t.sent ++ [⟨address, client.port, data, t.now⟩]) ∧
      (¬request.IsFit → (∃ fault, outcome.1 = .error (.encoding (.name fault))) ∧
        outcome.2.links = t.links ∧ outcome.2.sent = t.sent) ∧
      (request.IsFit →
        (t.use (.new ⟨host, client.port⟩ none Protocol.maxQueueSize)).openSocket.1 = .ok () →
        t.network.sendError = none →
        ∃ sent, outcome.2.sent = t.sent ++ [sent]) := by
  intro outcome
  have hemits : Emits t 1 (client.question t host request) outcome.2 :=
    emits_find client t host request
  refine ⟨hemits.links, ?_, find_of_not_isFit, ?_⟩
  · by_cases hfit : request.IsFit
    · cases hreach : t.network.reach ⟨host, client.port⟩ none with
      | error failure =>
        rw [question_of_error client t host hreach] at hemits
        exact .inl (hemits.sent.trans (List.append_nil _))
      | ok destination =>
        obtain ⟨family, address, others, data, hresolve, hdecode, hquestion⟩ :=
          question_eq client t host hfit hreach
        rw [hquestion] at hemits
        exact .inr ⟨family, address, others, data, hresolve, hdecode, hemits.sent⟩
    · exact .inl (find_of_not_isFit hfit).2.2
  · intro hfit hopen hsend
    rcases openSocket_cases (t := t.use (.new ⟨host, client.port⟩ none Protocol.maxQueueSize)) rfl
      with ⟨destination, u, -, -, hreach⟩ | ⟨failure, u, hfailed, -, -⟩
    · have hfine : (t.use (.new ⟨host, client.port⟩ none Protocol.maxQueueSize)).network.sendError =
          none := hsend
      rw [hfine] at hreach
      obtain ⟨_, _, _, _, -, -, hquestion⟩ := question_eq client t host hfit hreach
      rw [hquestion] at hemits
      exact ⟨_, hemits.sent⟩
    · rw [hfailed] at hopen
      cases hopen

/-- The longest name that can be asked for, at a host that does not answer. -/
theorem find_wire_longest :
    ∃ sent, (Client.default.find (.new (.silent ⟨[], none, none⟩)) "10.0.0.2"
      (.adminPort (String.ofList (List.replicate 32 'A')))).2.sent = [sent] := by
  obtain ⟨-, -, -, hsends⟩ := find_wire .default (.new (.silent ⟨[], none, none⟩)) "10.0.0.2"
    (.adminPort (String.ofList (List.replicate 32 'A')))
  refine hsends ?_ (by decide +kernel) rfl
  intro name hname
  cases hname
  have hletters : ∀ c ∈ (String.ofList (List.replicate 32 'A')).toList, c = 'A' := by
    rw [String.toList_ofList]
    exact fun c hmem => List.eq_of_mem_replicate hmem
  refine ⟨by decide +kernel, by decide +kernel, fun c hmem => ?_, fun hmem => ?_⟩
  · rw [hletters c hmem]
    rfl
  · exact absurd (hletters _ hmem) (by decide)

end Client

end SqlResolution
