import SqlResolution.Proofs.Timeline.Moves

/-!
# What every wait leaves in order

A wait takes time and datagrams, and that is all: the network, what was sent, the link of the
socket and which links are closed stay as they were, and the log tells of no new state.

Beyond that a timeline is sound if nothing is wrong with what it holds. Every datagram in the
queue or on its way satisfies what is known of all replies of the network; nothing is about
to be cancelled; and every link but that of the socket is closed. Waiting keeps a timeline
sound, and so do opening, asking and closing, which are not waits.
-/

namespace SqlResolution

/-- What is known of the datagrams of all replies. -/
def Network.EachReply (P : Datagram → Prop) (network : Network) : Prop :=
  ∀ (destination : Destination), ∀ reply ∈ network.repliesOf destination.host,
    ∀ datagram, reply.answer.event destination.peer = .datagram datagram → P datagram

namespace Timeline

variable {t u : Timeline} {P : Datagram → Prop}

def states (t : Timeline) : List State :=
  t.notices.filterMap Notice.newState?

def closedLinks (t : Timeline) : List Bool :=
  t.links.map (·.isClosed)

/-- What waiting leaves as it was. -/
structure Later (t u : Timeline) : Prop where
  network : u.network = t.network
  sent : u.sent = t.sent
  link : u.socket.link = t.socket.link
  name : u.socket.name = t.socket.name
  closedLinks : u.closedLinks = t.closedLinks
  states : u.states = t.states
  now : t.now ≤ u.now

theorem Later.refl (t : Timeline) : Later t t :=
  ⟨rfl, rfl, rfl, rfl, rfl, rfl, Int.le_refl _⟩

theorem Later.trans {v : Timeline} (h : Later t u) (h' : Later u v) : Later t v where
  network := h'.network.trans h.network
  sent := h'.sent.trans h.sent
  link := h'.link.trans h.link
  name := h'.name.trans h.name
  closedLinks := h'.closedLinks.trans h.closedLinks
  states := h'.states.trans h.states
  now := Int.le_trans h.now h'.now

theorem states_note (t : Timeline) (notices : List Notice) :
    (t.note notices).states = t.states ++ notices.filterMap Notice.newState? := by
  simp [states, Timeline.notices, note, Function.comp_def]

theorem states_note_of_silent {notices : List Notice}
    (h : ∀ notice ∈ notices, notice.newState? = none) : (t.note notices).states = t.states := by
  rw [states_note, List.filterMap_eq_nil_iff.2 h, List.append_nil]

theorem closedLinks_disconnect (t : Timeline) (link : Nat) :
    (t.disconnect link).closedLinks = t.closedLinks := by
  refine List.ext_getElem? ?_
  intro i
  simp only [closedLinks, disconnect, List.getElem?_map, List.getElem?_modify]
  cases t.links[i]? with
  | none => rfl
  | some found => by_cases hlink : link = i <;> simp [hlink]

theorem later_handle (t : Timeline) (event : Event) : Later t (t.handle event) where
  network := rfl
  sent := rfl
  link := t.socket.link_handle event
  name := t.socket.name_handle event
  closedLinks := rfl
  states := states_note_of_silent fun _ => Socket.newState?_of_mem_handle
  now := Int.le_refl _

theorem later_disconnect (t : Timeline) (link : Nat) : Later t (t.disconnect link) :=
  ⟨rfl, rfl, rfl, rfl, closedLinks_disconnect t link, rfl, Int.le_refl _⟩

theorem later_arrive (t : Timeline) (delivery : Delivery) : Later t (t.arrive delivery) := by
  rw [arrive]
  split
  · split
    · exact (later_disconnect t _).trans (later_handle _ _)
    · exact later_handle t _
  · exact .refl t

theorem later_take (t : Timeline) : Later t t.take.2 := by
  obtain ⟨queue, hsocket, -⟩ := Socket.take_frame t.socket
  have htake : t.take.2 = t.use { t.socket with queue } := congrArg t.use hsocket
  rw [htake]
  exact ⟨rfl, rfl, rfl, rfl, rfl, rfl, Int.le_refl _⟩

theorem Move.later (h : Move t u) : Later t u := by
  cases h with
  | note notices h => exact ⟨rfl, rfl, rfl, rfl, rfl, states_note_of_silent h, Int.le_refl _⟩
  | clock now turn cancelAt hnow hcancel => exact ⟨rfl, rfl, rfl, rfl, rfl, rfl, hnow⟩
  | called delivery rest h =>
    have harrive := later_arrive (t.withCalled rest) delivery
    exact ⟨harrive.network, harrive.sent, harrive.link, harrive.name, harrive.closedLinks,
      harrive.states, harrive.now⟩
  | agenda delivery rest h =>
    have harrive := later_arrive (t.withAgenda rest) delivery
    exact ⟨harrive.network, harrive.sent, harrive.link, harrive.name, harrive.closedLinks,
      harrive.states, harrive.now⟩
  | callDue h => exact ⟨rfl, rfl, rfl, rfl, rfl, rfl, Int.le_refl _⟩
  | take => exact later_take t

theorem Moves.later (h : Moves t u) : Later t u :=
  h.preserves (fun hmove hlater => hlater.trans hmove.later) (.refl t)

/-! ## The end of the stream -/

theorem stream_handle_of_ended (t : Timeline) {error : Option OsError}
    (h : t.socket.stream = .ended error) (event : Event) :
    (t.handle event).socket.stream = .ended error :=
  Socket.stream_handle_of_ended h event

theorem stream_arrive_of_ended (t : Timeline) {error : Option OsError}
    (h : t.socket.stream = .ended error) (delivery : Delivery) :
    (t.arrive delivery).socket.stream = .ended error := by
  rw [arrive]
  split
  · split
    · exact stream_handle_of_ended (t.disconnect _) h _
    · exact stream_handle_of_ended t h _
  · exact h

theorem Move.ended {error : Option OsError} (h : Move t u)
    (hended : t.socket.stream = .ended error) : u.socket.stream = .ended error := by
  cases h with
  | note | clock | callDue => exact hended
  | called delivery rest h => exact stream_arrive_of_ended (t.withCalled rest) hended delivery
  | agenda delivery rest h => exact stream_arrive_of_ended (t.withAgenda rest) hended delivery
  | take =>
    obtain ⟨queue, hsocket, -⟩ := Socket.take_frame t.socket
    show t.socket.take.2.stream = _
    rw [hsocket]
    exact hended

/-- A stream that has ended keeps its end, and the cause of it. -/
theorem Moves.ended {error : Option OsError} (h : Moves t u)
    (hended : t.socket.stream = .ended error) : u.socket.stream = .ended error :=
  h.preserves (fun hmove => hmove.ended) hended

/-! ## Soundness -/

def EachDatagram (P : Datagram → Prop) (deliveries : List Delivery) : Prop :=
  ∀ delivery ∈ deliveries, ∀ datagram, delivery.event = .datagram datagram → P datagram

/-- Nothing is wrong with what the timeline holds. -/
structure IsSound (P : Datagram → Prop) (t : Timeline) : Prop where
  replies : t.network.EachReply P
  queued : ∀ datagram, some datagram ∈ t.socket.queue → P datagram
  called : EachDatagram P t.called
  agenda : EachDatagram P t.agenda
  uncancelled : t.cancelAt = none
  tidy : ∀ i, t.closedLinks[i]? = some false → t.socket.link = some i

theorem isSound_new {network : Network} (h : network.EachReply P) :
    (Timeline.new network).IsSound P where
  replies := h
  queued := fun _ hmem => absurd hmem List.not_mem_nil
  called := fun _ hmem => absurd hmem List.not_mem_nil
  agenda := fun _ hmem => absurd hmem List.not_mem_nil
  uncancelled := rfl
  tidy := nofun

theorem IsSound.of_later (h : t.IsSound P) (hlater : Later t u)
    (hqueued : ∀ datagram, some datagram ∈ u.socket.queue → P datagram)
    (hcalled : EachDatagram P u.called) (hagenda : EachDatagram P u.agenda)
    (huncancelled : u.cancelAt = none) : u.IsSound P where
  replies := by rw [hlater.network]; exact h.replies
  queued := hqueued
  called := hcalled
  agenda := hagenda
  uncancelled := huncancelled
  tidy := by rw [hlater.closedLinks, hlater.link]; exact h.tidy

theorem arrive_keeps (t : Timeline) (delivery : Delivery) :
    (t.arrive delivery).called = t.called ∧ (t.arrive delivery).agenda = t.agenda ∧
      (t.arrive delivery).cancelAt = t.cancelAt := by
  rw [arrive]
  split
  · split <;> exact ⟨rfl, rfl, rfl⟩
  · exact ⟨rfl, rfl, rfl⟩

theorem socket_arrive (t : Timeline) (delivery : Delivery) :
    (t.arrive delivery).socket =
      if t.isConnected delivery.link then (t.socket.handle delivery.event).2 else t.socket := by
  rw [arrive]
  split
  · split
    next error hevent =>
      rw [hevent]
      rfl
    next => rfl
  · rfl

theorem now_arrive (t : Timeline) (delivery : Delivery) : (t.arrive delivery).now = t.now := by
  rw [arrive]
  split
  · split <;> rfl
  · rfl

theorem mem_queue_arrive {delivery : Delivery} {datagram : Datagram}
    (h : some datagram ∈ (t.arrive delivery).socket.queue) :
    some datagram ∈ t.socket.queue ∨ delivery.event = .datagram datagram := by
  rw [arrive] at h
  split at h
  · split at h
    next error hevent =>
      have h : some datagram ∈ (t.socket.handle (.loss error)).2.queue := h
      rcases Socket.mem_queue_handle h with hold | hnew
      · exact .inl hold
      · cases hnew
    next => exact Socket.mem_queue_handle h
  · exact .inl h

theorem IsSound.arrive (h : t.IsSound P) {delivery : Delivery}
    (hdelivery : ∀ datagram, delivery.event = .datagram datagram → P datagram) :
    (t.arrive delivery).IsSound P := by
  obtain ⟨hcalled, hagenda, hcancel⟩ := arrive_keeps t delivery
  refine h.of_later (later_arrive t delivery) ?_ ?_ ?_ ?_
  · intro datagram hmem
    rcases mem_queue_arrive hmem with hold | hnew
    · exact h.queued datagram hold
    · exact hdelivery datagram hnew
  · rw [hcalled]
    exact h.called
  · rw [hagenda]
    exact h.agenda
  · rw [hcancel]
    exact h.uncancelled

theorem IsSound.move (h : t.IsSound P) (hmove : Move t u) : u.IsSound P := by
  have hlater := hmove.later
  cases hmove with
  | note notices => exact h.of_later hlater h.queued h.called h.agenda h.uncancelled
  | clock now turn cancelAt hnow hcancel =>
    refine h.of_later hlater h.queued h.called h.agenda ?_
    rcases hcancel with hsame | hnone
    · exact hsame.trans h.uncancelled
    · exact hnone
  | called delivery rest hcalled =>
    have hall := h.called
    rw [hcalled] at hall
    have hrest : (t.withCalled rest).IsSound P :=
      { h with called := fun other hother => hall other (List.mem_cons_of_mem _ hother) }
    exact hrest.arrive (hall delivery List.mem_cons_self)
  | agenda delivery rest hagenda =>
    have hall := h.agenda
    rw [hagenda] at hall
    have hrest : (t.withAgenda rest).IsSound P :=
      { h with agenda := fun other hother => hall other (List.mem_cons_of_mem _ hother) }
    exact hrest.arrive (hall delivery List.mem_cons_self)
  | callDue hcalled =>
    refine h.of_later hlater h.queued ?_ ?_ h.uncancelled
    · exact fun other hother => h.agenda other ((List.takeWhile_sublist _).subset hother)
    · exact fun other hother => h.agenda other ((List.dropWhile_sublist _).subset hother)
  | take =>
    obtain ⟨queue, hsocket, hqueue⟩ := Socket.take_frame t.socket
    refine h.of_later hlater ?_ h.called h.agenda h.uncancelled
    intro datagram hmem
    have hmem : some datagram ∈ t.socket.take.2.queue := hmem
    rw [hsocket] at hmem
    exact h.queued datagram (hqueue _ hmem)

theorem IsSound.moves (h : t.IsSound P) (hmoves : Moves t u) : u.IsSound P :=
  hmoves.preserves (fun hmove ht => ht.move hmove) h

/-! ## Receiving -/

/-- What is received from a timeline with which nothing is wrong: a datagram of which enough is
known, or the end, or a failure of the transport. -/
def Receives (P : Datagram → Prop) : Except Failure (Option Datagram) → Prop
  | .ok none => True
  | .ok (some datagram) => P datagram
  | .error failure => ∃ fault, failure = .transport fault

theorem receives_atEnd (socket : Socket) : Receives P socket.atEnd := by
  rw [Socket.atEnd]
  split
  · exact ⟨_, rfl⟩
  · exact trivial

theorem IsSound.receives_take (h : t.IsSound P) {result : Except Failure (Option Datagram)}
    (htake : t.take = (some result, u)) : Receives P result := by
  have hfound : t.socket.take.1 = some result := congrArg Prod.fst htake
  rw [Socket.take] at hfound
  split at hfound
  next datagram rest hqueue =>
    cases hfound
    refine h.queued datagram ?_
    rw [hqueue]
    exact List.mem_cons_self
  next =>
    cases hfound
    exact receives_atEnd _
  next =>
    split at hfound
    · cases hfound
      exact receives_atEnd _
    · cases hfound

theorem IsSound.receives_takeReady (h : t.IsSound P) : Receives P t.takeReady.1 := by
  rw [takeReady]
  split
  next result u htake => exact h.receives_take htake
  next => exact trivial

theorem cancelAt_deliver (t : Timeline) (delivery : Delivery) :
    (t.deliver delivery).cancelAt = t.cancelAt := by
  rw [deliver_eq, (arrive_keeps _ _).2.2, networkAt_eq]

theorem giveUp_ne_cancelled (limit : Option Instant) (agenda : List Delivery)
    (h : t.cancelAt = none) : (t.giveUp limit agenda).1 ≠ .cancelled := by
  intro hcancelled
  unfold giveUp at hcancelled
  rw [h] at hcancelled
  cases limit <;> cases hcancelled

/-- A wait that nothing cancels does not end so. -/
theorem waitFrom_ne_cancelled (limit : Option Instant) (agenda : List Delivery)
    (h : t.cancelAt = none) : (t.waitFrom limit agenda).1 ≠ .cancelled := by
  intro hcancelled
  induction agenda generalizing t with
  | nil =>
    rw [waitFrom] at hcancelled
    split at hcancelled
    · cases hcancelled
    · exact giveUp_ne_cancelled limit [] h hcancelled
  | cons delivery rest ih =>
    unfold waitFrom at hcancelled
    split at hcancelled
    · cases hcancelled
    · dsimp only at hcancelled
      split at hcancelled
      · exact ih ((cancelAt_deliver t delivery).trans h) hcancelled
      · exact giveUp_ne_cancelled limit _ h hcancelled

theorem IsSound.receives_await (h : t.IsSound P) (length : Option Span) :
    Receives P (t.await length).1 := by
  rw [await]
  split
  · exact trivial
  · dsimp only
    have hcalled := h.moves (moves_deliverCalled t)
    split
    · exact hcalled.receives_takeReady
    · have hwait := hcalled.moves
        (moves_wait t.deliverCalled (length.map t.deliverCalled.now.after))
      have hnot := waitFrom_ne_cancelled (length.map t.deliverCalled.now.after)
        t.deliverCalled.agenda hcalled.uncancelled
      split
      next wait_eq =>
        rw [wait_eq] at hwait
        exact hwait.receives_takeReady
      next => exact trivial
      next wait_eq => exact absurd (congrArg Prod.fst wait_eq) hnot

theorem IsSound.receives_receive (h : t.IsSound P) (length : Option Span) :
    Receives P (t.receive (.value length)).1 := by
  rw [receive]
  split
  next result u htake => exact h.receives_take htake
  next u htake =>
    have hrest := h.moves (Move.take t).moves
    rw [htake] at hrest
    exact hrest.receives_await length

/-- Whoever waits for the next answer, and says how long, learns of nothing but the answer, the end
and the transport. -/
theorem IsSound.receives_awaitNext (h : t.IsSound P) {limits : Limits} {inactivity : Timeout}
    (hvalue : limits.inactivity = .value inactivity) (endsAt : Option Instant) :
    Receives P (t.awaitNext limits endsAt).1 := by
  unfold awaitNext
  dsimp only
  rw [hvalue]
  split
  · exact trivial
  · exact h.receives_receive _

end Timeline

end SqlResolution
