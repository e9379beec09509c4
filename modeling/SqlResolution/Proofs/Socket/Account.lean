import SqlResolution.Proofs.Timeline.History

/-!
# Where the datagrams of a socket go

Every datagram that arrives before the end of the stream is counted. If there is room for it,
it is queued, and leaves the queue again when it is handed out; otherwise it is dropped. So
at any point what was handed out, and behind it what is still in the queue, is what was
queued, in the order in which it arrived: nothing is lost there, nothing doubled, and
nothing overtakes.

The marker of the end does not disturb this. It comes in once, when the stream ends, behind
everything; afterwards nothing comes in behind it.
-/

namespace SqlResolution

namespace Socket

/-- The datagrams in the queue. -/
def datagrams (socket : Socket) : List Datagram :=
  socket.queue.filterMap id

end Socket

namespace Moment

/-- The datagram that comes in, as long as the stream has not ended. -/
def arrived? (moment : Moment) : Option Datagram :=
  match moment.act with
  | .event (.datagram datagram) => if moment.socket.stream = .flowing then some datagram else none
  | _ => none

def hasRoom (moment : Moment) : Bool :=
  ¬(0 < moment.socket.capacity ∧ moment.socket.queue.length = moment.socket.capacity)

def queued? (moment : Moment) : Option Datagram :=
  if moment.hasRoom then moment.arrived? else none

def dropped? (moment : Moment) : Option Datagram :=
  if moment.hasRoom then none else moment.arrived?

end Moment

namespace Socket

variable {socket : Socket} {capacity : Int} {history : List Moment}

/-- What a history tells of the datagrams of a socket is what the socket shows. -/
structure IsAccountedBy (capacity : Int) (history : List Moment) (socket : Socket) : Prop where
  kept : socket.capacity = capacity
  order : history.filterMap Moment.taken? ++ socket.datagrams = history.filterMap Moment.queued?
  received : socket.received = (history.filterMap Moment.arrived?).length
  dropped : socket.received =
    (history.filterMap Moment.taken?).length + socket.datagrams.length +
      (history.filterMap Moment.dropped?).length
  bounded : 0 < capacity → socket.queue.length ≤ capacity
  marker : socket.queue = socket.datagrams.map some ∨
    socket.hasEnded = true ∧ socket.queue = socket.datagrams.map some ++ [none]

theorem hasEnded_iff : socket.hasEnded = true ↔ socket.stream ≠ .flowing :=
  decide_eq_true_iff

theorem filterMap_snoc (f : Moment → Option Datagram) (history : List Moment) (moment : Moment) :
    (history ++ [moment]).filterMap f = history.filterMap f ++ (f moment).toList := by
  rw [List.filterMap_append]
  cases h : f moment <;> simp [h]

theorem IsNew.isAccountedBy (h : socket.IsNew) : socket.IsAccountedBy socket.capacity [] where
  kept := rfl
  order := by rw [datagrams, h.queue]; rfl
  received := h.received
  dropped := by rw [datagrams, h.queue, h.received]; rfl
  bounded := by rw [h.queue]; exact Int.le_of_lt
  marker := .inl (by rw [datagrams, h.queue]; rfl)

/-- The queue is full if it holds as many entries as it may. -/
theorem IsAccountedBy.isFull_eq (h : socket.IsAccountedBy capacity history) (act : Act) :
    socket.isFull = !Moment.hasRoom ⟨socket, act⟩ := by
  have hbound := h.bounded
  rw [← h.kept] at hbound
  simp only [isFull, Moment.hasRoom, ← Bool.decide_and, decide_not, Bool.not_not, decide_eq_decide]
  omega

/-- A queue that is not full has room for one entry more. -/
theorem IsAccountedBy.length_queue_snoc_le (h : socket.IsAccountedBy capacity history)
    {entry : Option Datagram} (hpos : 0 < capacity) (hnotfull : ¬socket.isFull = true) :
    ((socket.queue ++ [entry]).length : Int) ≤ capacity := by
  have hbound := h.bounded hpos
  rw [isFull, h.kept] at hnotfull
  simp only [hpos, decide_true, Bool.true_and, decide_eq_true_eq] at hnotfull
  rw [List.length_append, List.length_singleton]
  omega

/-- While datagrams come the marker is not in the queue. -/
theorem IsAccountedBy.queue_eq (h : socket.IsAccountedBy capacity history)
    (hflowing : ¬socket.hasEnded = true) : socket.queue = socket.datagrams.map some := by
  rcases h.marker with hqueue | ⟨hended, -⟩
  · exact hqueue
  · exact absurd hended hflowing

/-- The marker is behind all datagrams. -/
theorem IsAccountedBy.of_queue_eq_none_cons (h : socket.IsAccountedBy capacity history)
    {rest : List (Option Datagram)} (hqueue : socket.queue = none :: rest) :
    rest = [] ∧ socket.datagrams = [] := by
  have hmarker := h.marker
  rw [hqueue] at hmarker
  cases hdatagrams : socket.datagrams with
  | nil =>
    have hshape : socket.hasEnded = true ∧ rest = [] := by simpa [hdatagrams] using hmarker
    exact ⟨hshape.2, rfl⟩
  | cons datagram others => simp [hdatagrams] at hmarker

/-! ## What each act does to the account -/

/-- An act that brings no datagram and hands none out is not told of. -/
theorem IsAccountedBy.silent (h : socket.IsAccountedBy capacity history) (moment : Moment)
    (harrived : moment.arrived? = none) (htaken : moment.taken? = none) :
    socket.IsAccountedBy capacity (history ++ [moment]) := by
  have hqueued : moment.queued? = none := by
    rw [Moment.queued?, harrived, ite_self]
  have hdropped : moment.dropped? = none := by
    rw [Moment.dropped?, harrived, ite_self]
  refine ⟨h.kept, ?_, ?_, ?_, h.bounded, h.marker⟩
  · simpa only [filterMap_snoc, htaken, hqueued, Option.toList_none, List.append_nil] using h.order
  · simpa only [filterMap_snoc, harrived, Option.toList_none, List.append_nil] using h.received
  · simpa only [filterMap_snoc, htaken, hdropped, Option.toList_none, List.append_nil]
      using h.dropped

theorem IsAccountedBy.finish (h : socket.IsAccountedBy capacity history)
    (error : Option OsError) : (socket.finish error).IsAccountedBy capacity history := by
  rw [Socket.finish]
  split
  · exact h
  next hflowing =>
    have hqueue := h.queue_eq hflowing
    split
    · exact { h with marker := .inl hqueue }
    next hroom =>
      have hdatagrams : (socket.queue ++ [none]).filterMap id = socket.datagrams := by
        rw [List.filterMap_append]
        exact List.append_nil _
      refine ⟨h.kept, ?_, h.received, ?_, ?_, .inr ⟨rfl, ?_⟩⟩
      · rw [datagrams, hdatagrams]
        exact h.order
      · rw [datagrams, hdatagrams]
        exact h.dropped
      · intro hpos
        exact h.length_queue_snoc_le hpos hroom
      · rw [datagrams, hdatagrams, ← hqueue]

/-- A datagram for which there is no room is counted, and that is all. -/
theorem IsAccountedBy.drop (h : socket.IsAccountedBy capacity history) {moment : Moment}
    {datagram : Datagram} (htaken : moment.taken? = none)
    (harrived : moment.arrived? = some datagram) (hroom : moment.hasRoom = false) :
    { socket with received := socket.received + 1 }.IsAccountedBy capacity
      (history ++ [moment]) := by
  have hqueued : moment.queued? = none := by simp [Moment.queued?, hroom]
  have hdropped : moment.dropped? = some datagram := by simp [Moment.dropped?, hroom, harrived]
  have hsame : { socket with received := socket.received + 1 }.datagrams = socket.datagrams := rfl
  refine ⟨h.kept, ?_, ?_, ?_, h.bounded, h.marker⟩
  · simpa [filterMap_snoc, htaken, hqueued, hsame] using h.order
  · simpa [filterMap_snoc, harrived] using h.received
  · have hcount := h.dropped
    simp only [filterMap_snoc, htaken, hdropped, hsame, Option.toList_none,
      Option.toList_some, List.append_nil, List.length_append, List.length_singleton]
    omega

/-- A datagram for which there is room comes in behind all others. -/
theorem IsAccountedBy.enqueue (h : socket.IsAccountedBy capacity history) {moment : Moment}
    {datagram : Datagram} (htaken : moment.taken? = none)
    (harrived : moment.arrived? = some datagram) (hroom : moment.hasRoom = true)
    (hflowing : ¬socket.hasEnded = true) (hnotfull : ¬socket.isFull = true) :
    { socket with
      received := socket.received + 1
      queue := socket.queue ++ [some datagram] }.IsAccountedBy capacity
        (history ++ [moment]) := by
  have hqueued : moment.queued? = some datagram := by simp [Moment.queued?, hroom, harrived]
  have hdropped : moment.dropped? = none := by simp [Moment.dropped?, hroom]
  have hqueue := h.queue_eq hflowing
  have hdatagrams :
      (socket.queue ++ [some datagram]).filterMap id = socket.datagrams ++ [datagram] := by
    rw [List.filterMap_append]
    rfl
  refine ⟨h.kept, ?_, ?_, ?_, ?_, .inl ?_⟩
  · rw [datagrams, hdatagrams, filterMap_snoc, filterMap_snoc, htaken, hqueued, ← h.order]
    simp
  · simpa [filterMap_snoc, harrived] using h.received
  · have hcount := h.dropped
    rw [datagrams, hdatagrams, filterMap_snoc, filterMap_snoc, htaken, hdropped]
    simp only [Option.toList_none, List.append_nil, List.length_append, List.length_singleton]
    omega
  · intro hpos
    exact h.length_queue_snoc_le hpos hnotfull
  · rw [datagrams, hdatagrams, List.map_append, ← hqueue]
    rfl

theorem IsAccountedBy.accept (h : socket.IsAccountedBy capacity history) (datagram : Datagram) :
    (socket.accept datagram).2.IsAccountedBy capacity
      (history ++ [⟨socket, .event (.datagram datagram)⟩]) := by
  have hfull := h.isFull_eq (.event (.datagram datagram))
  generalize hmoment : (⟨socket, .event (.datagram datagram)⟩ : Moment) = moment at hfull ⊢
  have htaken : moment.taken? = none := by
    rw [← hmoment]
    rfl
  rw [Socket.accept]
  split
  next hended =>
    have harrived : moment.arrived? = none := by
      rw [← hmoment]
      exact if_neg (hasEnded_iff.1 hended)
    exact h.silent _ harrived htaken
  next hflowing =>
    have harrived : moment.arrived? = some datagram := by
      rw [← hmoment]
      exact if_pos (by simpa [hasEnded_iff] using hflowing)
    dsimp only
    split
    next hnoroom => exact h.drop htaken harrived (by simpa [hnoroom] using hfull)
    next hnotfull =>
      exact h.enqueue htaken harrived (by simpa [hnotfull] using hfull) hflowing hnotfull

/-- An event is told of, and accounted for. -/
theorem IsAccountedBy.event (h : socket.IsAccountedBy capacity history) (event : Event) :
    (socket.handle event).2.IsAccountedBy capacity (history ++ [⟨socket, .event event⟩]) := by
  cases event with
  | datagram datagram => exact h.accept datagram
  | failure error =>
    have hsilent := h.silent ⟨socket, .event (.failure error)⟩ rfl rfl
    show (socket.fail error).2.IsAccountedBy _ _
    rw [fail]
    split
    · exact hsilent
    · exact hsilent.finish _
  | loss error =>
    have hsilent := h.silent ⟨socket, .event (.loss error)⟩ rfl rfl
    exact hsilent.finish error

/-- The oldest datagram is handed out. -/
theorem IsAccountedBy.handOut (h : socket.IsAccountedBy capacity history) {moment : Moment}
    {datagram : Datagram} {rest : List (Option Datagram)} (harrived : moment.arrived? = none)
    (htaken : moment.taken? = some datagram) (hqueue : socket.queue = some datagram :: rest) :
    { socket with queue := rest }.IsAccountedBy capacity (history ++ [moment]) := by
  have hqueued : moment.queued? = none := by rw [Moment.queued?, harrived, ite_self]
  have hdropped : moment.dropped? = none := by rw [Moment.dropped?, harrived, ite_self]
  have hdatagrams : socket.datagrams = datagram :: rest.filterMap id := by
    rw [datagrams, hqueue]
    rfl
  refine ⟨h.kept, ?_, ?_, ?_, ?_, ?_⟩
  · rw [filterMap_snoc, filterMap_snoc, htaken, hqueued, Option.toList_none, List.append_nil,
      ← h.order, hdatagrams, List.append_assoc]
    rfl
  · simpa [filterMap_snoc, harrived] using h.received
  · have hcount := h.dropped
    rw [hdatagrams, List.length_cons] at hcount
    rw [filterMap_snoc, filterMap_snoc, htaken, hdropped, Option.toList_none, List.append_nil,
      List.length_append]
    show socket.received = _ + 1 + (rest.filterMap id).length + _
    omega
  · intro hpos
    have hbound := h.bounded hpos
    rw [hqueue, List.length_cons] at hbound
    show (rest.length : Int) ≤ capacity
    omega
  · have hmarker := h.marker
    rw [hdatagrams, hqueue] at hmarker
    rcases hmarker with hall | ⟨hended, hall⟩
    · exact .inl (List.cons.inj hall).2
    · exact .inr ⟨hended, (List.cons.inj hall).2⟩

theorem IsAccountedBy.take (h : socket.IsAccountedBy capacity history) :
    socket.take.2.IsAccountedBy capacity (history ++ [⟨socket, .take⟩]) := by
  rw [Socket.take]
  split
  next datagram rest hqueue =>
    refine h.handOut rfl ?_ hqueue
    rw [Moment.taken?, hqueue]
    rfl
  next rest hqueue =>
    obtain ⟨rfl, hdatagrams⟩ := h.of_queue_eq_none_cons hqueue
    have htaken : Moment.taken? ⟨socket, .take⟩ = none := by
      rw [Moment.taken?, hqueue]
      rfl
    have hsilent := h.silent _ rfl htaken
    have hsame : { socket with queue := [] }.datagrams = socket.datagrams := hdatagrams.symm
    refine ⟨hsilent.kept, hsame ▸ hsilent.order, hsilent.received, hsame ▸ hsilent.dropped,
      Int.le_of_lt, .inl rfl⟩
  next hqueue =>
    refine h.silent _ rfl ?_
    rw [Moment.taken?, hqueue]
    rfl

/-- A socket without its link. -/
def unlinked (socket : Socket) : Socket :=
  { socket with link := none }

theorem finish_of_hasEnded (h : socket.hasEnded = true) (error : Option OsError) :
    socket.finish error = socket :=
  if_pos h

theorem finish_unlinked (socket : Socket) (error : Option OsError) :
    socket.unlinked.finish error = (socket.finish error).unlinked := by
  have hended : socket.unlinked.hasEnded = socket.hasEnded := rfl
  unfold finish
  rw [hended]
  split <;> rfl

theorem IsAccountedBy.unlinked (h : socket.IsAccountedBy capacity history) :
    socket.unlinked.IsAccountedBy capacity history :=
  ⟨h.kept, h.order, h.received, h.dropped, h.bounded, h.marker⟩

theorem IsAccountedBy.close (h : socket.IsAccountedBy capacity history) :
    (socket.finish none).unlinked.IsAccountedBy capacity (history ++ [⟨socket, .close⟩]) :=
  ((h.silent ⟨socket, .close⟩ rfl rfl).finish none).unlinked

end Socket

namespace Timeline

variable {t u : Timeline} {capacity : Int} {history last : List Moment}

/-- Closing ends the stream. That the link hangs up first makes no difference. -/
theorem socket_close (t : Timeline) : t.close.socket = (t.socket.finish none).unlinked := by
  cases hlink : t.socket.link with
  | none =>
    have hunlinked : t.socket.unlinked = t.socket := by
      rw [Socket.unlinked, ← hlink]
    rw [close_of_no_link hlink, socket_use, ← Socket.finish_unlinked, hunlinked]
  | some link =>
    have hdrop : (t.dropLink link).socket =
        if t.isConnected link then t.socket.unlinked.finish none else t.socket.unlinked :=
      socket_arrive (t.use t.socket.unlinked) ⟨t.now, link, .loss none⟩
    rw [close_of_link hlink, socket_use, hdrop, ← Socket.finish_unlinked]
    split
    · exact Socket.finish_of_hasEnded (Socket.hasEnded_finish _ _) none
    · rfl

theorem isAccountedBy_arrive (h : t.socket.IsAccountedBy capacity history) (delivery : Delivery) :
    (t.arrive delivery).socket.IsAccountedBy capacity (history ++ t.arrivals delivery) := by
  rw [socket_arrive, arrivals]
  split
  · exact h.event delivery.event
  · rw [List.append_nil]
    exact h

/-- Whatever happens, the account stays right. -/
theorem Occurs.isAccountedBy (hstep : Occurs t last u)
    (h : t.socket.IsAccountedBy capacity history) :
    u.socket.IsAccountedBy capacity (history ++ last) := by
  cases hstep with
  | clock | callDue =>
    rw [List.append_nil]
    exact h
  | called delivery rest =>
    exact isAccountedBy_arrive (t := t.withCalled rest) h delivery
  | agenda delivery rest =>
    exact isAccountedBy_arrive (t := t.withAgenda rest) h delivery
  | event event => exact h.event event
  | close =>
    rw [socket_close]
    exact h.close
  | take => exact h.take

theorem History.isAccountedBy (hhistory : History t history u) (hnew : t.socket.IsNew) :
    u.socket.IsAccountedBy t.socket.capacity history := by
  induction hhistory with
  | nil => exact hnew.isAccountedBy
  | snoc _ hlast ih => exact hlast.isAccountedBy ih

/-- From a new socket on, every history accounts for all datagrams, at every point; and what a
program does with the socket has a history in which just those datagrams are handed out that
the program is given. -/
theorem datagrams_accounted (hnew : t.socket.IsNew) :
    (∀ history u, History t history u →
      u.socket.IsAccountedBy t.socket.capacity history) ∧
    ∀ steps, ∃ history, History t history (t.perform steps).2 ∧
      history.filterMap Moment.taken? = (t.perform steps).1.flatMap handed := by
  constructor
  · intro history u hhistory
    exact hhistory.isAccountedBy hnew
  · intro steps
    exact hands_perform t steps

/-- Nothing is to come, and the socket, which is new, has room for one entry. -/
def narrow : Timeline :=
  (Timeline.new (.silent ⟨[], none, none⟩)).use (.new ⟨"10.0.0.1", .value 1434⟩ none 1)

theorem datagrams_accounted_narrow :
    narrow.socket.IsNew ∧
    (∀ history u, History narrow history u →
      u.socket.IsAccountedBy 1 history) ∧
    ∀ steps, ∃ history, History narrow history (narrow.perform steps).2 ∧
      history.filterMap Moment.taken? = (narrow.perform steps).1.flatMap handed :=
  ⟨Socket.isNew_new _ _ _, datagrams_accounted (Socket.isNew_new _ _ _)⟩

end Timeline

end SqlResolution
