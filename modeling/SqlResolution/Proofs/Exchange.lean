import SqlResolution.Proofs.Timeline.Schedule
import SqlResolution.Proofs.Timeline.Sound

/-!
# Opening, asking and closing

A link is open from the moment the socket is opened until it is closed, and whoever opens
a socket that has no link leaves at most that one link open. To close is to hang up, which
arrives as a loss does, and to give the link back: afterwards the socket has none, its
stream has ended, and no link of a sound timeline is open.
-/

namespace SqlResolution

namespace Timeline

variable {t : Timeline} {P : Datagram → Prop}

/-- The socket has a link, and the link is open. -/
def IsOpen (t : Timeline) : Prop :=
  ∃ i, t.socket.link = some i ∧ t.closedLinks[i]? = some false

theorem IsOpen.of_later {u : Timeline} (h : t.IsOpen) (hlater : Later t u) : u.IsOpen := by
  rw [IsOpen, hlater.link, hlater.closedLinks]
  exact h

/-- Without a link there is nothing left open. -/
theorem IsSound.isClosed (h : t.IsSound P) (hlink : t.socket.link = none) :
    ∀ link ∈ t.links, link.isClosed = true := by
  intro link hmem
  cases hclosed : link.isClosed with
  | true => rfl
  | false =>
    obtain ⟨i, hi⟩ := List.mem_iff_getElem?.1 hmem
    have hopen : t.closedLinks[i]? = some false := by
      rw [closedLinks, List.getElem?_map, hi, Option.map_some, hclosed]
    rw [h.tidy i hopen] at hlink
    cases hlink

theorem IsOpen.exists_open (h : t.IsOpen) : ∃ link ∈ t.links, link.isClosed = false := by
  obtain ⟨i, -, hopen⟩ := h
  rw [closedLinks, List.getElem?_map, Option.map_eq_some_iff] at hopen
  obtain ⟨link, hlink, hclosed⟩ := hopen
  exact ⟨link, List.mem_of_getElem? hlink, hclosed⟩

/-! ## Closing -/

theorem hangUp_eq_arrive (t : Timeline) (link : Nat) :
    t.hangUp link = t.arrive ⟨t.now, link, .loss none⟩ := rfl

theorem closedLinks_release (t : Timeline) (link : Nat) :
    (t.release link).closedLinks = t.closedLinks.set link true := by
  refine List.ext_getElem? ?_
  intro i
  simp only [closedLinks, release, List.getElem?_map, List.getElem?_modify, List.getElem?_set,
    List.length_map]
  by_cases hlink : link = i
  · subst hlink
    cases hfound : t.links[link]? with
    | none => simp [List.getElem?_eq_none_iff.1 hfound]
    | some found => simp [(List.getElem?_eq_some_iff.1 hfound).1]
  · cases t.links[i]? <;> simp [hlink]

def dropLink (t : Timeline) (link : Nat) : Timeline :=
  ((t.use { t.socket with link := none }).hangUp link).release link

theorem close_of_link {link : Nat} (h : t.socket.link = some link) :
    t.close = (t.dropLink link).use ((t.dropLink link).socket.finish none) := by
  rw [close, h]
  rfl

theorem close_of_no_link (h : t.socket.link = none) :
    t.close = t.use (t.socket.finish none) := by
  rw [close, h]

theorem link_dropLink (t : Timeline) (link : Nat) : (t.dropLink link).socket.link = none :=
  (later_arrive (t.use { t.socket with link := none }) ⟨t.now, link, .loss none⟩).link

theorem closedLinks_dropLink (t : Timeline) (link : Nat) :
    (t.dropLink link).closedLinks = t.closedLinks.set link true := by
  rw [dropLink, closedLinks_release, hangUp_eq_arrive, (later_arrive _ _).closedLinks]
  rfl

theorem states_dropLink (t : Timeline) (link : Nat) : (t.dropLink link).states = t.states :=
  (later_arrive (t.use { t.socket with link := none }) ⟨t.now, link, .loss none⟩).states

@[simp] theorem link_close (t : Timeline) : t.close.socket.link = none := by
  cases hlink : t.socket.link with
  | none =>
    rw [close_of_no_link hlink]
    exact (Socket.link_finish _ _).trans hlink
  | some link =>
    rw [close_of_link hlink]
    exact (Socket.link_finish _ _).trans (link_dropLink t link)

@[simp] theorem hasEnded_close (t : Timeline) : t.close.socket.hasEnded = true := by
  cases hlink : t.socket.link with
  | none =>
    rw [close_of_no_link hlink]
    exact Socket.hasEnded_finish _ _
  | some link =>
    rw [close_of_link hlink]
    exact Socket.hasEnded_finish _ _

@[simp] theorem states_close (t : Timeline) : t.close.states = t.states := by
  cases hlink : t.socket.link with
  | none =>
    rw [close_of_no_link hlink]
    rfl
  | some link =>
    rw [close_of_link hlink]
    exact states_dropLink t link

theorem now_close (t : Timeline) : t.close.now = t.now := by
  cases hlink : t.socket.link with
  | none =>
    rw [close_of_no_link hlink]
    rfl
  | some link =>
    rw [close_of_link hlink]
    exact now_arrive (t.use { t.socket with link := none }) ⟨t.now, link, .loss none⟩

/-- What is sound with any link is sound without it, once the link is closed. -/
theorem IsSound.dropLink (h : t.IsSound P) {link : Nat} (hlink : t.socket.link = some link) :
    (t.dropLink link).IsSound P := by
  obtain ⟨hcalled, hagenda, hcancel⟩ :=
    arrive_keeps (t.use { t.socket with link := none }) ⟨t.now, link, .loss none⟩
  refine ⟨?_, ?_, ?_, ?_, ?_, ?_⟩
  · have hnetwork :=
      (later_arrive (t.use { t.socket with link := none }) ⟨t.now, link, .loss none⟩).network
    exact hnetwork ▸ h.replies
  · intro datagram hmem
    rcases @mem_queue_arrive (t.use { t.socket with link := none }) ⟨t.now, link, .loss none⟩
      datagram hmem with hold | hnew
    · exact h.queued datagram hold
    · cases hnew
  · exact hcalled ▸ h.called
  · exact hagenda ▸ h.agenda
  · exact hcancel.trans h.uncancelled
  · intro i hi
    rw [closedLinks_dropLink, List.getElem?_set] at hi
    split at hi
    · split at hi <;> cases hi
    next hne =>
      have hlink' := h.tidy i hi
      rw [hlink] at hlink'
      exact absurd (Option.some.inj hlink') hne

theorem IsSound.finish (h : t.IsSound P) (error : Option OsError) :
    (t.use (t.socket.finish error)).IsSound P where
  replies := h.replies
  queued := fun datagram hmem => h.queued datagram (Socket.mem_queue_finish hmem)
  called := h.called
  agenda := h.agenda
  uncancelled := h.uncancelled
  tidy := fun i hi => (Socket.link_finish _ _).trans (h.tidy i hi)

theorem IsSound.close (h : t.IsSound P) : t.close.IsSound P := by
  cases hlink : t.socket.link with
  | none =>
    rw [close_of_no_link hlink]
    exact h.finish none
  | some link =>
    rw [close_of_link hlink]
    exact (h.dropLink hlink).finish none

/-! ## Opening -/

theorem isClosed_of_openLink_failed {network : Network} {family : Family} {broadcast : Bool}
    {error : OsError} {closed : Option Link}
    (h : network.openLink family broadcast = .failed error closed) :
    ∀ link ∈ closed.toList, link.isClosed = true := by
  rw [Network.openLink] at h
  split at h
  · cases h
    simp
  · split at h
    · cases h
      simp
    · split at h
      · cases h
        simp
      · dsimp only at h
        split at h
        · cases h
          simp
        · cases h

theorem isClosed_of_openLink_opened {network : Network} {family : Family} {broadcast : Bool}
    {link : Link} (h : network.openLink family broadcast = .opened link) :
    link.isClosed = false := by
  rw [Network.openLink] at h
  split at h
  · cases h
  · split at h
    · cases h
    · split at h
      · cases h
      · dsimp only at h
        split at h
        · cases h
        · cases h
          rfl

theorem closedLinks_append (t : Timeline) (links : List Link) :
    { t with links := t.links ++ links }.closedLinks =
      t.closedLinks ++ links.map (·.isClosed) :=
  List.map_append

theorem IsSound.append_closed (h : t.IsSound P) {links : List Link}
    (hclosed : ∀ link ∈ links, link.isClosed = true) :
    { t with links := t.links ++ links }.IsSound P :=
  { h with
    tidy := by
      intro i hi
      rw [closedLinks_append] at hi
      by_cases hlt : i < t.closedLinks.length
      · rw [List.getElem?_append_left hlt] at hi
        exact h.tidy i hi
      · rw [List.getElem?_append_right (Nat.not_lt.1 hlt), List.getElem?_map,
          Option.map_eq_some_iff] at hi
        obtain ⟨link, hlink, hopen⟩ := hi
        rw [hclosed link (List.mem_of_getElem? hlink)] at hopen
        cases hopen }

/-- A socket with the queue and the link of the one in use takes its place. -/
theorem IsSound.use (h : t.IsSound P) {socket : Socket} (hqueue : socket.queue = t.socket.queue)
    (hlink : socket.link = t.socket.link) : (t.use socket).IsSound P :=
  { h with
    queued := fun datagram hmem => h.queued datagram (hqueue ▸ hmem)
    tidy := fun i hi => hlink.trans (h.tidy i hi) }

def attach (t : Timeline) (link : Link) : Timeline :=
  { t with links := t.links ++ [link] }.use { t.socket with link := some t.links.length }

theorem isOpen_attach {link : Link} (hopen : link.isClosed = false) : (t.attach link).IsOpen := by
  have hlinks : (t.attach link).closedLinks = t.closedLinks ++ [link.isClosed] :=
    closedLinks_append t [link]
  have hlength : t.closedLinks.length = t.links.length := List.length_map _
  refine ⟨t.links.length, rfl, ?_⟩
  rw [hlinks, ← hlength, List.getElem?_concat_length, hopen]

theorem IsSound.attach (h : t.IsSound P) (hlink : t.socket.link = none) (link : Link) :
    (t.attach link).IsSound P :=
  { h with
    tidy := by
      intro i hi
      have hlinks : (t.attach link).closedLinks = t.closedLinks ++ [link.isClosed] :=
        closedLinks_append t [link]
      have hlength : t.closedLinks.length = t.links.length := List.length_map _
      rw [hlinks] at hi
      by_cases hlt : i < t.closedLinks.length
      · rw [List.getElem?_append_left hlt] at hi
        rw [h.tidy i hi] at hlink
        cases hlink
      · have hle := (List.getElem?_eq_some_iff.1 hi).1
        rw [List.length_append, List.length_singleton] at hle
        show some t.links.length = some i
        congr 1
        omega }

/-- Whatever opening comes to, the timeline is sound, and the socket has a link that is open or it
has none. -/
structure Opened (P : Datagram → Prop) (t : Timeline) (outcome : Outcome Unit) : Prop where
  sound : outcome.2.IsSound P
  states : outcome.2.states = t.states
  ok : outcome.1 = .ok () → outcome.2.IsOpen
  error : ∀ failure, outcome.1 = .error failure → outcome.2.socket.link = none

theorem opened_of_error {u : Timeline} {failure : Failure} (hsound : u.IsSound P)
    (hstates : u.states = t.states) (hlink : u.socket.link = none) :
    Opened P t (.error failure, u) where
  sound := hsound
  states := hstates
  ok := by
    intro hok
    cases hok
  error := fun _ _ => hlink

theorem opened_openTo (h : t.IsSound P) (hlink : t.socket.link = none) (destination : Destination)
    (broadcast : Bool) : Opened P t (t.openTo destination broadcast) := by
  rw [openTo]
  split
  next error closed hopening =>
    have hsound := (h.append_closed (isClosed_of_openLink_failed hopening)).close
    exact opened_of_error hsound (states_close _) (link_close _)
  next link hopening =>
    have hopen : (t.attach link).IsOpen := isOpen_attach (isClosed_of_openLink_opened hopening)
    have hsilent : ∀ own, ∀ notice ∈
        [Notice.connected t.socket.name, .opened t.socket.name own broadcast],
        notice.newState? = none := by
      simp [Notice.newState?]
    refine ⟨(h.attach hlink link).move (.note _ _ (hsilent _)),
      states_note_of_silent (hsilent _), fun _ => hopen, ?_⟩
    intro failure hfailure
    cases hfailure

/-- A socket without a link is opened, or it stays without one. -/
theorem opened_openSocket (h : t.IsSound P) (hlink : t.socket.link = none) :
    Opened P t t.openSocket := by
  rw [openSocket]
  dsimp only
  split
  · exact opened_of_error h rfl hlink
  · exact opened_of_error h rfl hlink
  next family host _ hresolution =>
    have hdestined := @IsSound.use t P h
      { t.socket with destination := some ⟨family, host, t.socket.name.port⟩ } rfl rfl
    split
    · exact opened_of_error hdestined rfl hlink
    next broadcast hdecided =>
      have hdecided := @IsSound.use _ P hdestined
        { t.socket with
          destination := some ⟨family, host, t.socket.name.port⟩
          broadcast := some broadcast } rfl rfl
      have hopened := opened_openTo hdecided hlink ⟨family, host, t.socket.name.port⟩ broadcast
      exact ⟨hopened.sound, hopened.states, hopened.ok, hopened.error⟩

/-! ## Sending -/

theorem send_of_link {link : Nat} {destination : Destination}
    (hlink : t.socket.link = some link) (hdestination : t.socket.destination = some destination)
    (data : List UInt8) :
    t.send data =
      match t.network.sendError with
      | some error => (.error (.transport (.sendFailed t.socket.name error)),
          t.note [.sending t.socket.name destination data])
      | none =>
        (.ok (),
          (t.note [.sending t.socket.name destination data]).dispatch link destination data) := by
  rw [Timeline.send, hlink, hdestination]
  rfl

theorem send_of_not_open (h : t.socket.link = none ∨ t.socket.destination = none)
    (data : List UInt8) :
    t.send data = (.error (.transport (.notOpen t.socket.name)), t) := by
  rw [Timeline.send]
  split
  next hlink hdestination => simp [hlink, hdestination] at h
  next => rfl

/-- The replies to a question are on their way, and so nothing comes but what is known of them. -/
theorem IsSound.dispatch (h : t.IsSound P) (link : Nat) (destination : Destination)
    (data : List UInt8) : (t.dispatch link destination data).IsSound P :=
  { h with
    agenda := by
      intro delivery hmem datagram hevent
      rcases Schedule.mem_foldl_insert hmem with hnew | hold
      · obtain ⟨reply, hreply, rfl⟩ := List.mem_map.1 hnew
        exact h.replies destination reply hreply datagram hevent
      · exact h.agenda delivery hold datagram hevent }

/-- Sending opens and closes nothing. -/
structure Asked (P : Datagram → Prop) (t : Timeline) (outcome : Outcome Unit) : Prop where
  sound : outcome.2.IsSound P
  states : outcome.2.states = t.states
  link : outcome.2.socket.link = t.socket.link
  closedLinks : outcome.2.closedLinks = t.closedLinks

theorem asked_send (h : t.IsSound P) (data : List UInt8) : Asked P t (t.send data) := by
  rw [send]
  split
  next link destination hlink hdestination =>
    have hnoted := h.move (.note _ [.sending t.socket.name destination data]
      (by simp [Notice.newState?]))
    have hstates : (t.note [.sending t.socket.name destination data]).states = t.states :=
      states_note_of_silent (by simp [Notice.newState?])
    dsimp only
    split
    · exact ⟨hnoted, hstates, rfl, rfl⟩
    · exact ⟨hnoted.dispatch _ _ _, hstates, rfl, rfl⟩
  · exact ⟨h, rfl, rfl, rfl⟩

end Timeline

end SqlResolution
