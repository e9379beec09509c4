import SqlResolution.Proofs.Client
import SqlResolution.Proofs.Exchange.Obstacle
import SqlResolution.Proofs.Timeline.Flow

/-!
# What a socket hears

A timeline goes on after an exchange has ended, and then answers may still be on their way to a
link that was closed. Nobody hears them: no link is connected but that of the socket in use,
and one that is created is new, so that nothing which was on its way before can be for it. Once
a socket asks, then, it hears nothing but answers to its own question.

Waiting, taking and closing create no link and send nothing, and time does not go back. All this
is said together of two timelines, one behind the other, so that it needs to be followed through
an exchange only once.
-/

namespace SqlResolution

namespace Timeline

variable {t u v : Timeline} {P : Datagram → Prop}

/-- What was called or is on the agenda. -/
def underway (t : Timeline) : List Delivery :=
  t.called ++ t.agenda

/-- No link is connected but that of the socket in use, and of what is on its way to that link
enough is known. Nothing is on its way to a link that does not exist. -/
structure Attends (P : Datagram → Prop) (t : Timeline) : Prop where
  connected : ∀ link, t.isConnected link = true → t.socket.link = some link
  answers : ∀ delivery ∈ t.underway, t.socket.link = some delivery.link →
    ∀ datagram, delivery.event = .datagram datagram → P datagram
  created : ∀ delivery ∈ t.underway, delivery.link < t.links.length

/-- From one timeline to the other nothing was done on the network. Who attended to datagrams of a
kind has heard no others, and still does. -/
structure Listens (P : Datagram → Prop) (t u : Timeline) : Prop where
  network : u.network = t.network
  sent : u.sent = t.sent
  links : u.links.length = t.links.length
  now : t.now ≤ u.now
  attends : t.Attends P → u.Attends P
  hears : t.Attends P → ∃ arrived, u.accepted = t.accepted ++ arrived ∧
    ∀ datagram ∈ arrived, P datagram

theorem Listens.refl (t : Timeline) : Listens P t t :=
  ⟨rfl, rfl, rfl, Int.le_refl _, id, fun _ => ⟨[], (List.append_nil _).symm, by simp⟩⟩

theorem Listens.trans (h : Listens P t u) (h' : Listens P u v) : Listens P t v where
  network := h'.network.trans h.network
  sent := h'.sent.trans h.sent
  links := h'.links.trans h.links
  now := Int.le_trans h.now h'.now
  attends := fun ht => h'.attends (h.attends ht)
  hears := by
    intro ht
    obtain ⟨arrived, haccepted, hknown⟩ := h.hears ht
    obtain ⟨later, hlater, hknown'⟩ := h'.hears (h.attends ht)
    refine ⟨arrived ++ later, by rw [hlater, haccepted, List.append_assoc], ?_⟩
    intro datagram hmem
    exact (List.mem_append.1 hmem).elim (hknown datagram) (hknown' datagram)

/-! ## Attending -/

theorem Attends.of_subset (h : t.Attends P) (hlink : u.socket.link = t.socket.link)
    (hconnected : ∀ link, u.isConnected link = true → t.isConnected link = true)
    (hlinks : t.links.length ≤ u.links.length)
    (hunderway : ∀ delivery ∈ u.underway, delivery ∈ t.underway) : u.Attends P where
  connected := fun link hlinked => hlink.trans (h.connected link (hconnected link hlinked))
  answers := fun delivery hmem hfor => h.answers delivery (hunderway delivery hmem)
    (hlink.symm.trans hfor)
  created := fun delivery hmem =>
    Nat.lt_of_lt_of_le (h.created delivery (hunderway delivery hmem)) hlinks

/-- Where no link is connected there is nothing to be known of what comes. -/
theorem attends_of_no_link (hlink : t.socket.link = none)
    (hconnected : ∀ link, t.isConnected link = false)
    (hcreated : ∀ delivery ∈ t.underway, delivery.link < t.links.length) : t.Attends P where
  connected := fun link hlinked => absurd hlinked (Bool.eq_false_iff.1 (hconnected link))
  answers := fun _ _ hfor => absurd (hlink.symm.trans hfor) nofun
  created := hcreated

/-- Who has no link may wait for anything. -/
theorem Attends.of_no_link {Q : Datagram → Prop} (h : t.Attends P) (hlink : t.socket.link = none) :
    t.Attends Q := by
  refine attends_of_no_link hlink (fun link => Bool.eq_false_iff.2 fun hconnected => ?_) h.created
  have hlinked := h.connected link hconnected
  rw [hlink] at hlinked
  cases hlinked

theorem isConnected_disconnect {link other : Nat}
    (h : (t.disconnect link).isConnected other = true) :
    t.isConnected other = true ∧ other ≠ link := by
  simp only [isConnected, disconnect, List.getElem?_modify] at h ⊢
  cases hfound : t.links[other]? with
  | none => simp [hfound] at h
  | some found =>
    by_cases hsame : link = other
    · simp [hfound, hsame] at h
    · simp only [hfound, hsame, if_false] at h
      exact ⟨h, fun heq => hsame heq.symm⟩

theorem isConnected_release (t : Timeline) (link other : Nat) :
    (t.release link).isConnected other = t.isConnected other := by
  simp only [isConnected, release, List.getElem?_modify]
  cases t.links[other]? with
  | none => rfl
  | some found => by_cases hsame : link = other <;> simp [hsame]

theorem isConnected_arrive (delivery : Delivery) {link : Nat}
    (h : (t.arrive delivery).isConnected link = true) : t.isConnected link = true := by
  rw [arrive] at h
  split at h
  · split at h
    · exact (isConnected_disconnect (t := t) h).1
    · exact h
  · exact h

theorem Attends.arrive (h : t.Attends P) (delivery : Delivery) : (t.arrive delivery).Attends P := by
  have hlater := later_arrive t delivery
  obtain ⟨hcalled, hagenda, -⟩ := arrive_keeps t delivery
  refine h.of_subset hlater.link (fun _ => isConnected_arrive delivery)
    (Nat.le_of_eq (Browse.length_links_of_later hlater).symm) ?_
  rw [underway, hcalled, hagenda]
  exact fun _ => id

/-- What arrives is heard if its link is connected, and if it is a datagram. -/
theorem hears_arrive (delivery : Delivery) (h : t.isConnected delivery.link = true →
      ∀ datagram, delivery.event = .datagram datagram → P datagram) :
    ∃ arrived, (t.arrive delivery).accepted = t.accepted ++ arrived ∧
      ∀ datagram ∈ arrived, P datagram := by
  obtain ⟨arrived, -, hnotices, hevent⟩ := t.socket.datagrams_handle delivery.event
  rw [arrive]
  split
  next hconnected =>
    refine ⟨arrived, ?_, fun datagram hmem => h hconnected datagram (hevent datagram hmem)⟩
    have haccepted : (t.note (t.socket.handle delivery.event).1).accepted =
        t.accepted ++ arrived := by
      rw [accepted_note, hnotices]
    split
    next error hloss =>
      rw [hloss] at haccepted
      exact haccepted
    next => exact haccepted
  next => exact ⟨[], (List.append_nil _).symm, by simp⟩

/-! ## While the program waits -/

theorem listens_of_same (hlater : Later t u) (hlinks : u.links = t.links)
    (hunderway : ∀ delivery ∈ u.underway, delivery ∈ t.underway)
    (haccepted : u.accepted = t.accepted) : Listens P t u where
  network := hlater.network
  sent := hlater.sent
  links := congrArg List.length hlinks
  now := hlater.now
  attends := fun ht => ht.of_subset hlater.link
    (fun link hconnected => by rwa [isConnected, hlinks] at hconnected)
    (Nat.le_of_eq (congrArg List.length hlinks).symm) hunderway
  hears := fun _ => ⟨[], by rw [haccepted, List.append_nil], by simp⟩

theorem listens_note {notices : List Notice} (hstates : ∀ notice ∈ notices, notice.newState? = none)
    (hsilent : ∀ notice ∈ notices, notice.IsSilent) (t : Timeline) :
    Listens P t (t.note notices) :=
  listens_of_same (Move.note t notices hstates).later rfl (fun _ => id)
    (by rw [accepted_note, Notice.foldl_tally_of_silent hsilent])

theorem Pass.listens (h : Pass t u) : Listens P t u := by
  have hlater := h.move.later
  have harrive : ∀ (rested : Timeline) (delivery : Delivery), delivery ∈ t.underway →
      rested.accepted = t.accepted → (∀ link, rested.isConnected link = t.isConnected link) →
      (t.Attends P → rested.Attends P) → u = rested.arrive delivery → Listens P t u := by
    rintro rested delivery hmem haccepted hconnected hattends rfl
    refine ⟨hlater.network, hlater.sent, Browse.length_links_of_later hlater, hlater.now,
      fun ht => (hattends ht).arrive delivery, fun ht => ?_⟩
    have hheard := hears_arrive (t := rested) (P := P) delivery fun hlinked =>
      ht.answers delivery hmem (ht.connected _ (hconnected _ ▸ hlinked))
    rwa [haccepted] at hheard
  cases h with
  | clock now turn cancelAt hnow hcancel =>
    exact listens_of_same hlater rfl (fun _ => id) rfl
  | called delivery rest h =>
    refine harrive (t.withCalled rest) delivery ?_ rfl (fun _ => rfl)
      (fun ht => ht.of_subset rfl (fun _ => id) (Nat.le_refl _) ?_) rfl
    · simp [underway, h]
    · intro other hother
      have hother : other ∈ rest ++ t.agenda := hother
      rw [underway, h]
      exact List.mem_cons_of_mem _ hother
  | agenda delivery rest h =>
    refine harrive (t.withAgenda rest) delivery ?_ rfl (fun _ => rfl)
      (fun ht => ht.of_subset rfl (fun _ => id) (Nat.le_refl _) ?_) rfl
    · simp [underway, h]
    · intro other hother
      have hother : other ∈ t.called ++ rest := hother
      rw [underway, h]
      have hsublist : (t.called ++ rest).Sublist (t.called ++ delivery :: rest) :=
        (List.append_sublist_append_left t.called).2 (List.sublist_cons_self _ _)
      exact hsublist.subset hother
  | callDue h =>
    refine listens_of_same hlater rfl ?_ rfl
    intro delivery hmem
    have hmem : delivery ∈ t.agenda.takeWhile (·.time.isDue t.now) ++
        t.agenda.dropWhile (·.time.isDue t.now) := hmem
    rw [List.takeWhile_append_dropWhile] at hmem
    exact List.mem_append_right _ hmem

theorem Passes.listens (h : Passes t u) : Listens P t u := by
  induction h with
  | refl => exact .refl t
  | tail _ hlast ih => exact ih.trans hlast.listens

theorem listens_take (t : Timeline) : Listens P t t.take.2 :=
  listens_of_same (later_take t) rfl (fun _ => id) rfl

theorem listens_takeReady (t : Timeline) : Listens P t t.takeReady.2 := by
  rw [takeReady_eq]
  exact listens_take t

theorem listens_await (t : Timeline) (length : Option Span) :
    Listens P t (t.await length).2 := by
  rw [await]
  split
  · exact .refl t
  · dsimp only
    have hcalled : Listens P t t.deliverCalled := (passes_deliverCalled t).listens
    split
    · exact hcalled.trans ((listens_takeReady _).trans (passes_resume _ _).listens)
    · have hwait := hcalled.trans
        (passes_wait t.deliverCalled (length.map t.deliverCalled.now.after)).listens
      split
      next wait_eq =>
        rw [wait_eq] at hwait
        exact hwait.trans (listens_takeReady _)
      next wait_eq =>
        rw [wait_eq] at hwait
        exact hwait
      next wait_eq =>
        rw [wait_eq] at hwait
        exact hwait

theorem listens_receive (t : Timeline) (length : Setting (Option Span)) :
    Listens P t (t.receive length).2 := by
  have htake : Listens P t t.take.2 := listens_take t
  rw [receive]
  split
  next htaken =>
    rw [htaken] at htake
    exact htake
  next htaken =>
    rw [htaken] at htake
    split
    · exact htake.trans (listens_await _ _)
    · exact htake

theorem listens_awaitNext (t : Timeline) (limits : Limits) (endsAt : Option Instant) :
    Listens P t (t.awaitNext limits endsAt).2 := by
  unfold awaitNext
  dsimp only
  split
  · exact listens_note (by simp [Notice.newState?]) (by simp [Notice.IsSilent, Notice.tally]) t
  · split
    · exact listens_receive t _
    · exact .refl t

/-! ## Closing -/

theorem accepted_close (t : Timeline) : t.close.accepted = t.accepted := by
  cases hlink : t.socket.link with
  | none =>
    rw [close_of_no_link hlink]
    rfl
  | some link =>
    obtain ⟨arrived, haccepted, hnone⟩ := hears_arrive (P := fun _ => False)
      (t := t.use { t.socket with link := none }) ⟨t.now, link, .loss none⟩ nofun
    obtain rfl := List.eq_nil_iff_forall_not_mem.2 hnone
    rw [List.append_nil] at haccepted
    rw [close_of_link hlink]
    exact haccepted

/-- Who closes the socket in use hangs up its link, and no other one was connected. -/
theorem Attends.isConnected_close (h : t.Attends P) (other : Nat) :
    t.close.isConnected other = false := by
  refine Bool.eq_false_iff.2 fun hconnected => ?_
  cases hlink : t.socket.link with
  | none =>
    rw [close_of_no_link hlink] at hconnected
    have hother := h.connected other hconnected
    rw [hlink] at hother
    cases hother
  | some link =>
    rw [close_of_link hlink] at hconnected
    have hhungUp :
        ((t.use { t.socket with link := none }).hangUp link).isConnected other = true := by
      rw [← isConnected_release _ link]
      exact hconnected
    have hbefore : t.isConnected other = true :=
      isConnected_arrive (t := t.use { t.socket with link := none }) ⟨t.now, link, .loss none⟩
        hhungUp
    have hother := h.connected other hbefore
    rw [hlink] at hother
    obtain rfl := Option.some.inj hother
    rw [hangUp, if_pos (show (t.use { t.socket with link := none }).isConnected link = true
      from hbefore)] at hhungUp
    exact (isConnected_disconnect (t := t.use { t.socket with link := none }) hhungUp).2 rfl

theorem listens_close (t : Timeline) : Listens P t t.close := by
  obtain ⟨links, log, socket, hframe⟩ := close_frame t
  have hunderway : t.close.underway = t.underway := by
    rw [hframe]
    rfl
  have hlinks := Browse.length_links_close t
  refine ⟨by rw [hframe], by rw [hframe], hlinks, Int.le_of_eq (now_close t).symm, fun ht => ?_,
    fun _ => ⟨[], by rw [accepted_close, List.append_nil], by simp⟩⟩
  refine attends_of_no_link (link_close t) ht.isConnected_close ?_
  rw [hunderway, hlinks]
  exact ht.created

/-! ## Asking -/

theorem isConnected_append {links : List Link} {other : Nat}
    (h : isConnected { t with links := t.links ++ links } other = true) :
    t.isConnected other = true ∨
      ∃ link, links[other - t.links.length]? = some link ∧ link.isConnected = true ∧
        t.links.length ≤ other := by
  simp only [isConnected] at h ⊢
  by_cases hlt : other < t.links.length
  · rw [List.getElem?_append_left hlt] at h
    exact .inl h
  · have hle := Nat.not_lt.1 hlt
    rw [List.getElem?_append_right hle] at h
    cases hfound : links[other - t.links.length]? with
    | none => simp [hfound] at h
    | some link => exact .inr ⟨link, rfl, by simpa [hfound] using h, hle⟩

theorem isConnected_of_openLink_failed {network : Network} {family : Family} {broadcast : Bool}
    {error : OsError} {closed : Option Link}
    (h : network.openLink family broadcast = .failed error closed) :
    ∀ link ∈ closed.toList, link.isConnected = false := by
  rw [Network.openLink_eq] at h
  split at h
  · cases h
  · cases h
  next stage _ _ _ =>
    cases h
    cases stage <;> simp [Stage.leaves]

theorem Attends.note (h : t.Attends P) (notices : List Notice) : (t.note notices).Attends P :=
  ⟨h.connected, h.answers, h.created⟩

/-- A socket with the link of the one in use takes its place. -/
theorem Attends.use (h : t.Attends P) {socket : Socket} (hlink : socket.link = t.socket.link) :
    (t.use socket).Attends P :=
  h.of_subset hlink (fun _ => id) (Nat.le_refl _) fun _ => id

/-- Nothing is on its way to a link that is new. -/
theorem Attends.attach (h : t.Attends P) (hlink : t.socket.link = none) (link : Link) :
    (t.attach link).Attends P where
  connected := by
    intro other hother
    rcases isConnected_append (t := t) hother with hold | ⟨found, hfound, -, hle⟩
    · exact absurd (h.connected other hold) (by rw [hlink]; nofun)
    · have hlt := (List.getElem?_eq_some_iff.1 hfound).1
      rw [List.length_singleton] at hlt
      show some t.links.length = some other
      congr 1
      omega
  answers := by
    intro delivery hmem hfor
    have hnew : t.links.length = delivery.link := Option.some.inj hfor
    exact absurd (h.created delivery hmem) (by omega)
  created := by
    intro delivery hmem
    have hold := h.created delivery hmem
    show delivery.link < (t.links ++ [link]).length
    rw [List.length_append]
    omega

/-- Whoever opens a socket without a link has no other link connected afterwards. -/
theorem attends_openTo (hlink : t.socket.link = none) (h : t.Attends P) (destination : Destination)
    (broadcast : Bool) : (t.openTo destination broadcast).2.Attends P := by
  cases hopening : t.network.openLink destination.family broadcast with
  | failed error closed =>
    rw [openTo_eq_of_failed hlink hopening]
    refine h.of_subset (Socket.link_finish _ _) (fun other hother => ?_) (by simp) (fun _ => id)
    rcases isConnected_append (t := t) hother with hold | ⟨link, hfound, hnew, -⟩
    · exact hold
    · rw [isConnected_of_openLink_failed hopening link (List.mem_of_getElem? hfound)] at hnew
      cases hnew
  | opened link =>
    rw [openTo, hopening]
    exact (h.attach hlink link).note _

theorem attends_openSocket (hlink : t.socket.link = none) (h : t.Attends P) :
    t.openSocket.2.Attends P := by
  rw [openSocket]
  dsimp only
  split
  · exact h
  · exact h
  · have haimed : ∀ socket : Socket, socket.link = t.socket.link → (t.use socket).Attends P :=
      fun _ => h.use
    split
    · exact haimed _ rfl
    · refine attends_openTo ?_ ?_ _ _
      · exact hlink
      · exact (haimed _ rfl).use rfl

theorem openTo_frame (t : Timeline) (destination : Destination) (broadcast : Bool) :
    ∃ links log socket, (t.openTo destination broadcast).2 = { t with links, log, socket } := by
  rw [openTo]
  split
  next error closed _ =>
    exact close_frame { t with links := t.links ++ closed.toList }
  next link _ => exact ⟨_, _, _, rfl⟩

/-- Opening touches the links, the log and the socket, and nothing else. -/
theorem openSocket_frame (t : Timeline) :
    ∃ links log socket, t.openSocket.2 = { t with links, log, socket } := by
  rw [openSocket]
  dsimp only
  split
  · exact ⟨_, _, _, rfl⟩
  · exact ⟨_, _, _, rfl⟩
  · split
    · exact ⟨_, _, _, rfl⟩
    · exact openTo_frame _ _ _

theorem accepted_openTo (t : Timeline) (destination : Destination) (broadcast : Bool) :
    (t.openTo destination broadcast).2.accepted = t.accepted := by
  rw [openTo]
  split
  · exact accepted_close _
  · dsimp only
    rw [accepted_note]
    rfl

theorem accepted_openSocket (t : Timeline) : t.openSocket.2.accepted = t.accepted := by
  rw [openSocket]
  dsimp only
  split
  · rfl
  · rfl
  · split
    · rfl
    · exact accepted_openTo _ _ _

/-- The replies that are on their way now are those of the destination. -/
theorem Attends.dispatch (h : t.Attends P) {link : Nat} (hlink : link < t.links.length)
    {destination : Destination}
    (hreplies : ∀ reply ∈ t.network.repliesOf destination.host, ∀ datagram,
      reply.answer.event destination.peer = .datagram datagram → P datagram) (data : List UInt8) :
    (t.dispatch link destination data).Attends P := by
  have hmem : ∀ {delivery}, delivery ∈ (t.dispatch link destination data).underway →
      delivery ∈ t.underway ∨ delivery ∈ t.deliveries link destination := by
    intro delivery hmem
    rcases List.mem_append.1 hmem with hcalled | hagenda
    · exact .inl (List.mem_append_left _ hcalled)
    · rcases Schedule.mem_foldl_insert hagenda with hnew | hold
      · exact .inr hnew
      · exact .inl (List.mem_append_right _ hold)
  refine ⟨h.connected, fun delivery hdelivery hfor datagram hevent => ?_,
    fun delivery hdelivery => ?_⟩
  · rcases hmem hdelivery with hold | hnew
    · exact h.answers delivery hold hfor datagram hevent
    · obtain ⟨reply, hreply, rfl⟩ := List.mem_map.1 hnew
      exact hreplies reply hreply datagram hevent
  · rcases hmem hdelivery with hold | hnew
    · exact h.created delivery hold
    · obtain ⟨reply, -, rfl⟩ := List.mem_map.1 hnew
      exact hlink

/-- What a question puts on the wire, if it gets out. -/
def wire (t : Timeline) (data : List UInt8) : List Sent :=
  match t.network.reach t.socket.name t.socket.broadcast with
  | .ok destination => [⟨destination.host, destination.port, data, t.now⟩]
  | .error _ => []

/-- What becomes of a question that is asked over a new link. Whether it gets out is decided by the
network alone; if it does, the replies to it are what the socket hears. -/
structure Puts (t : Timeline) (data : List UInt8) (outcome : Outcome Unit) : Prop where
  result : outcome.1 = (t.network.reach t.socket.name t.socket.broadcast).map fun _ => ()
  network : outcome.2.network = t.network
  now : outcome.2.now = t.now
  emits : Emits t 1 (t.wire data) outcome.2
  accepted : outcome.2.accepted = t.accepted
  attends : ∀ {P : Datagram → Prop}, t.Attends P →
    (∀ destination, t.network.reach t.socket.name t.socket.broadcast = .ok destination →
      ∀ reply ∈ t.network.repliesOf destination.host, ∀ datagram,
        reply.answer.event destination.peer = .datagram datagram → P datagram) →
    outcome.2.Attends P

theorem puts_question (hlink : t.socket.link = none) (data : List UInt8) :
    Puts t data (t.question data) := by
  have hemits := emits_openSocket t
  have haccepted := accepted_openSocket t
  have hattends := fun {P} => attends_openSocket (P := P) hlink
  obtain ⟨links, log, socket, hframe⟩ := openSocket_frame t
  rcases openSocket_cases hlink with ⟨destination, u, hopen, hopens, hreach⟩ |
    ⟨failure, u, hopen, -, hreach⟩
  · rw [hopen] at hemits haccepted hattends
    have hsent := emits_send hopens data
    obtain ⟨broadcast, hsocket⟩ := hopens.socket
    obtain ⟨link, -, -, hlinks⟩ := hopens.links
    have hlinked : u.socket.link = some t.links.length := by rw [hsocket]
    have hdestination : u.socket.destination = some destination := by rw [hsocket]
    have hsend := send_of_link hlinked hdestination data
    have hname : u.socket.name = t.socket.name := by rw [hsocket]
    have hsending : (u.note [.sending t.socket.name destination data]).accepted = t.accepted := by
      rw [accepted_note]
      exact haccepted
    have hquestion : t.question data = u.send data := by rw [question, hopen]
    rw [hopens.network, hname] at hsend
    rw [hsend] at hsent
    rw [hquestion, hsend]
    cases hfault : t.network.sendError with
    | some error =>
      rw [hfault] at hsent hreach
      have hwire : t.wire data = [] := by rw [wire, hreach]
      exact ⟨by rw [hreach]; rfl, hopens.network, hopens.now, hwire ▸ hemits.trans hsent,
        hsending, fun ht _ => (hattends ht).note _⟩
    | none =>
      rw [hfault] at hsent hreach
      have hwire : t.wire data = [⟨destination.host, destination.port, data, t.now⟩] := by
        rw [wire, hreach]
      refine ⟨by rw [hreach]; rfl, hopens.network, hopens.now, hwire ▸ hemits.trans hsent,
        hsending, fun ht hreplies => ((hattends ht).note _).dispatch ?_ ?_ data⟩
      · show t.links.length < u.links.length
        rw [hlinks, List.length_append]
        exact Nat.lt_succ_self _
      · show ∀ reply ∈ u.network.repliesOf destination.host, _
        rw [hopens.network]
        exact hreplies destination hreach
  · rw [hopen] at hemits haccepted hattends hframe
    have hframe : u = _ := hframe
    have hquestion : t.question data = (.error failure, u) := by rw [question, hopen]
    have hwire : t.wire data = [] := by rw [wire, hreach]
    rw [hquestion]
    exact ⟨by rw [hreach]; rfl, by rw [hframe], by rw [hframe], hwire ▸ hemits, haccepted,
      fun ht _ => hattends ht⟩

end Timeline

end SqlResolution
