import SqlResolution.Proofs.Hanging

/-!
# What was said is not listened to

Two timelines that are the same but for what was sent and told are twins. Since nothing that
happens looks at either, each step takes twins to twins, with one result. Two programs may also say
different things, and even send different questions: the replies are those of the host, whatever it
was asked, and so they leave twins behind.
-/

namespace SqlResolution.Timeline

variable {α : Type} {t u : Timeline}

/-- The same timeline, but for what was sent and what was told. -/
inductive Twins : Timeline → Timeline → Prop
  | intro (t : Timeline) (sent : List Sent) (log : List Entry) : Twins { t with sent, log } t

/-- Two steps come to the same result, and leave twins. -/
structure SameOutcome (outcome other : α × Timeline) : Prop where
  result : outcome.1 = other.1
  twins : Twins outcome.2 other.2

theorem Twins.refl (t : Timeline) : Twins t t :=
  .intro t t.sent t.log

theorem SameOutcome.of_eq {outcome other : α × Timeline} (h : SameOutcome outcome other)
    {result : α} (hother : other = (result, u)) : ∃ t, outcome = (result, t) ∧ Twins t u := by
  subst hother
  exact ⟨outcome.2, Prod.ext h.result rfl, h.twins⟩

/-! ## What all twins share -/

/-- Twins recall different things, and before that they were one. -/
theorem Twins.exists_recalling (h : Twins t u) :
    ∃ v sent others log entries, t = recalling sent log v ∧ u = recalling others entries v := by
  obtain ⟨_, sent, log⟩ := h
  refine ⟨{ u with sent := [], log := [] }, sent, u.sent, log, u.log, ?_, ?_⟩
  · simp only [recalling, List.append_nil]
  · simp only [recalling, List.append_nil]

theorem twins_recalling (v : Timeline) (sent others : List Sent) (log entries : List Entry) :
    Twins (v.recalling sent log) (v.recalling others entries) :=
  .intro (v.recalling others entries) (sent ++ v.sent) (log ++ v.log)

/-- What is the same whatever was said before is the same for twins. -/
theorem Twins.same {f : Timeline → α} (hf : ∀ sent entries t, f (recalling sent entries t) = f t)
    (h : Twins t u) : f t = f u := by
  obtain ⟨v, sent, others, log, entries, rfl, rfl⟩ := h.exists_recalling
  rw [hf, hf]

/-- What happens whatever was said before happens to twins alike. -/
theorem Twins.outcome {f : Timeline → α × Timeline}
    (hf : ∀ sent entries t, f (recalling sent entries t) = recalled sent entries (f t))
    (h : Twins t u) : SameOutcome (f t) (f u) := by
  obtain ⟨v, sent, others, log, entries, rfl, rfl⟩ := h.exists_recalling
  rw [hf, hf]
  exact ⟨rfl, twins_recalling _ _ _ _ _⟩

theorem Twins.network (h : Twins t u) : t.network = u.network :=
  h.same fun _ _ _ => rfl

theorem Twins.socket (h : Twins t u) : t.socket = u.socket :=
  h.same fun _ _ _ => rfl

/-! ## Receiving -/

theorem Twins.receive (h : Twins t u) (length : Setting (Option Span)) :
    SameOutcome (t.receive length) (u.receive length) :=
  h.outcome (f := (·.receive length)) fun sent entries t => receive_recalling sent entries t length

theorem Twins.awaitOne (h : Twins t u) (response : Setting Timeout) :
    SameOutcome (t.awaitOne response) (u.awaitOne response) := by
  rcases hreceive : u.receive (response.map Timeout.length) with ⟨failure | _ | datagram, left⟩
  all_goals
    obtain ⟨taken, hother, htwins⟩ := (h.receive _).of_eq hreceive
    rw [Timeline.awaitOne, Timeline.awaitOne, hother, hreceive]
    dsimp only
  · exact ⟨rfl, htwins⟩
  · exact ⟨by rw [htwins.socket], htwins⟩
  · exact ⟨rfl, htwins⟩

theorem hangs_recalling (sent : List Sent) (entries : List Entry) (t : Timeline)
    (limit : Option Instant) : (t.recalling sent entries).hangs limit = t.hangs limit := by
  rw [hangs, hangs, wait_recalling]
  rfl

theorem receiveHangs_recalling (sent : List Sent) (entries : List Entry) (t : Timeline)
    (length : Setting (Option Span)) :
    (t.recalling sent entries).receiveHangs length = t.receiveHangs length := by
  rw [receiveHangs, receiveHangs, take_recalling]
  generalize t.take = taken
  obtain ⟨_ | result, left⟩ := taken
  · cases length with
    | value length =>
      show (left.recalling sent entries).awaitHangs length = left.awaitHangs length
      rw [awaitHangs, awaitHangs, deliverCalled_recalling, hangs_recalling]
      rfl
    | blank => rfl
  · rfl

theorem Twins.receiveHangs (h : Twins t u) (length : Setting (Option Span)) :
    t.receiveHangs length = u.receiveHangs length :=
  h.same (f := (·.receiveHangs length)) fun sent entries t =>
    receiveHangs_recalling sent entries t length

theorem Twins.oneHangs (h : Twins t u) (response : Setting Timeout) :
    t.oneHangs response = u.oneHangs response := by
  cases response with
  | value timeout =>
    show t.timedHangs timeout timeout.length = u.timedHangs timeout timeout.length
    rw [timedHangs, timedHangs, h.receiveHangs]
  | blank => rfl

/-! ## Opening and closing -/

theorem Twins.close (h : Twins t u) : Twins t.close u.close := by
  obtain ⟨v, sent, others, log, entries, rfl, rfl⟩ := h.exists_recalling
  rw [close_recalling, close_recalling]
  exact twins_recalling _ _ _ _ _

theorem Twins.note (h : Twins t u) (notices others : List Notice) :
    Twins (t.note notices) (u.note others) := by
  obtain ⟨_, sent, log⟩ := h
  exact .intro (u.note others) sent _

theorem Twins.use (h : Twins t u) (socket : Socket) : Twins (t.use socket) (u.use socket) := by
  obtain ⟨_, sent, log⟩ := h
  exact .intro (u.use socket) sent log

theorem Twins.withLinks (h : Twins t u) (links : List Link) :
    Twins { t with links } { u with links } := by
  obtain ⟨_, sent, log⟩ := h
  exact .intro { u with links } sent log

theorem Twins.openTo (h : Twins t u) (destination : Destination) (broadcast : Bool) :
    SameOutcome (t.openTo destination broadcast) (u.openTo destination broadcast) := by
  obtain ⟨_, sent, log⟩ := h
  rw [Timeline.openTo, Timeline.openTo]
  dsimp only
  cases u.network.openLink destination.family broadcast with
  | failed error closed =>
    have hclosed := (Twins.withLinks (.intro u sent log) (u.links ++ closed.toList)).close
    dsimp only
    rw [hclosed.socket]
    exact ⟨rfl, hclosed⟩
  | opened link => exact ⟨rfl, ((Twins.withLinks (.intro u sent log) _).use _).note _ _⟩

theorem Twins.openSocket (h : Twins t u) : SameOutcome t.openSocket u.openSocket := by
  have hresolve : t.network.resolve t.socket.name.host = u.network.resolve u.socket.name.host := by
    rw [h.network, h.socket]
  cases haddresses : u.network.resolve u.socket.name.host with
  | error error =>
    rw [haddresses] at hresolve
    simp only [Timeline.openSocket, hresolve, haddresses]
    exact ⟨by rw [h.socket], h⟩
  | ok addresses =>
    rw [haddresses] at hresolve
    cases addresses with
    | nil =>
      simp only [Timeline.openSocket, hresolve, haddresses]
      exact ⟨by rw [h.socket], h⟩
    | cons first others =>
      rw [openSocket_of_resolve hresolve, openSocket_of_resolve haddresses, h.network, h.socket]
      split
      · exact ⟨rfl, h.use _⟩
      · rw [aim, h.socket]
        exact (h.use _).openTo _ _

/-! ## Asking -/

theorem Twins.dispatch (h : Twins t u) (link : Nat) (destination : Destination)
    (data other : List UInt8) :
    Twins (t.dispatch link destination data) (u.dispatch link destination other) := by
  obtain ⟨_, sent, log⟩ := h
  exact .intro (u.dispatch link destination other) _ log

/-- Whatever two questions say, the replies are the same. -/
theorem Twins.send (h : Twins t u) (data other : List UInt8) :
    SameOutcome (t.send data) (u.send other) := by
  by_cases hopen : u.socket.link = none ∨ u.socket.destination = none
  · rw [send_of_not_open hopen, send_of_not_open (h.socket ▸ hopen), h.socket]
    exact ⟨rfl, h⟩
  · rw [not_or] at hopen
    obtain ⟨link, hlink⟩ := Option.ne_none_iff_exists'.1 hopen.1
    obtain ⟨destination, hdestination⟩ := Option.ne_none_iff_exists'.1 hopen.2
    rw [send_of_link hlink hdestination, send_of_link (h.socket ▸ hlink) (h.socket ▸ hdestination),
      h.network, h.socket]
    split
    · exact ⟨rfl, h.note _ _⟩
    · exact ⟨rfl, (h.note _ _).dispatch link destination data other⟩

end SqlResolution.Timeline
