import SqlResolution.Browse
import SqlResolution.Proofs.Socket.Account

/-!
# What was accepted and what was taken, by the log

A socket tells the log of each datagram that arrives while its stream flows, and if there is no
room for one, it tells of that at once. So the log alone says which datagrams a socket accepted,
and in which order.

What is accepted goes to the end of the queue, what is taken comes from its front, and nothing
else touches the datagrams in it. From one timeline to a later one, then, what was taken followed
by what is still queued is what was queued followed by what was accepted meanwhile. It follows
that everything taken so far is what was accepted, but for what is still queued.
-/

namespace SqlResolution

namespace Notice

/-- Adds the datagram that a notice tells of. That there was no room for a datagram is told right
after its arrival, and takes the arrival back. -/
def tally (datagrams : List Datagram) : Notice → List Datagram
  | received _ peer data => datagrams ++ [⟨peer, data⟩]
  | queueFull _ _ => datagrams.dropLast
  | _ => datagrams

/-- The notice tells of no arrival. -/
def IsSilent (notice : Notice) : Prop :=
  ∀ datagrams, tally datagrams notice = datagrams

theorem foldl_tally_of_silent {notices : List Notice} (h : ∀ notice ∈ notices, notice.IsSilent)
    (datagrams : List Datagram) : notices.foldl tally datagrams = datagrams := by
  induction notices with
  | nil => rfl
  | cons notice rest ih =>
    rw [List.foldl_cons, h notice List.mem_cons_self datagrams]
    exact ih fun other hother => h other (List.mem_cons_of_mem _ hother)

end Notice

namespace Socket

variable {socket : Socket}

theorem datagrams_finish (socket : Socket) (error : Option OsError) :
    (socket.finish error).datagrams = socket.datagrams := by
  rw [finish]
  split
  · rfl
  · rw [datagrams, datagrams]
    dsimp only
    split
    · rfl
    · rw [List.filterMap_append]
      exact List.append_nil _

/-- What an event adds to the queue is what the notices of it tell of, and it is nothing but the
datagram of the event. -/
theorem datagrams_handle (socket : Socket) (event : Event) :
    ∃ arrived, (socket.handle event).2.datagrams = socket.datagrams ++ arrived ∧
      (∀ datagrams,
        (socket.handle event).1.foldl Notice.tally datagrams = datagrams ++ arrived) ∧
      ∀ datagram ∈ arrived, event = .datagram datagram := by
  cases event with
  | datagram datagram =>
    show ∃ arrived, (socket.accept datagram).2.datagrams = _ ∧
      (∀ datagrams, (socket.accept datagram).1.foldl Notice.tally datagrams = _) ∧ _
    rw [accept]
    split
    · exact ⟨[], (List.append_nil _).symm, fun _ => (List.append_nil _).symm, by simp⟩
    · dsimp only
      split
      · refine ⟨[], (List.append_nil _).symm, ?_, by simp⟩
        intro datagrams
        show (datagrams ++ [datagram]).dropLast = datagrams ++ []
        rw [List.dropLast_concat, List.append_nil]
      · refine ⟨[datagram], ?_, fun _ => rfl, by simp⟩
        rw [Socket.datagrams, List.filterMap_append]
        rfl
  | failure error =>
    refine ⟨[], ?_, ?_, by simp⟩
    · rw [List.append_nil]
      show (socket.fail error).2.datagrams = _
      rw [fail]
      split
      · rfl
      · exact datagrams_finish socket _
    · intro datagrams
      rw [List.append_nil]
      show (socket.fail error).1.foldl Notice.tally datagrams = datagrams
      rw [fail]
      split <;> rfl
  | loss error =>
    refine ⟨[], ?_, fun datagrams => (List.append_nil datagrams).symm, by simp⟩
    rw [List.append_nil]
    exact datagrams_finish socket error

/-- What is taken comes from the front. -/
theorem datagrams_take (socket : Socket) :
    socket.queue.head?.join.toList ++ socket.take.2.datagrams = socket.datagrams := by
  rw [take]
  split
  next datagram rest hqueue =>
    rw [datagrams, datagrams, hqueue]
    rfl
  next rest hqueue =>
    rw [datagrams, datagrams, hqueue]
    rfl
  next hqueue =>
    rw [hqueue]
    rfl

end Socket

namespace Timeline

variable {t u v : Timeline}

/-- The datagrams that were accepted so far, in the order in which they arrived. -/
def accepted (t : Timeline) : List Datagram :=
  t.notices.foldl Notice.tally []

/-- The datagrams that were accepted and are no longer queued. -/
def taken (t : Timeline) : List Datagram :=
  t.accepted.take (t.accepted.length - t.socket.datagrams.length)

variable {taken later : List Datagram}

theorem taken_eq_of_append (h : taken ++ t.socket.datagrams = t.accepted) : t.taken = taken := by
  have hlength := congrArg List.length h
  rw [List.length_append] at hlength
  have hcount : t.accepted.length - t.socket.datagrams.length = taken.length := by omega
  rw [Timeline.taken, hcount, ← h, List.take_left]

theorem accepted_note (t : Timeline) (notices : List Notice) :
    (t.note notices).accepted = notices.foldl Notice.tally t.accepted := by
  rw [accepted, accepted, ← List.foldl_append]
  congr 1
  simp [Timeline.notices, note, Function.comp_def]

/-- From one timeline to the other these datagrams were taken, from the front, while others were
accepted, at the end. -/
def Flows (taken : List Datagram) (t u : Timeline) : Prop :=
  ∃ arrived, taken ++ u.socket.datagrams = t.socket.datagrams ++ arrived ∧
    u.accepted = t.accepted ++ arrived

theorem flows_of_same (hqueue : u.socket.datagrams = t.socket.datagrams)
    (haccepted : u.accepted = t.accepted) : Flows [] t u :=
  ⟨[], by rw [hqueue, List.nil_append, List.append_nil], by rw [haccepted, List.append_nil]⟩

theorem Flows.refl (t : Timeline) : Flows [] t t :=
  flows_of_same rfl rfl

theorem Flows.trans (h : Flows taken t u) (h' : Flows later u v) : Flows (taken ++ later) t v := by
  obtain ⟨arrived, hqueue, haccepted⟩ := h
  obtain ⟨arrivedLater, hqueueLater, hacceptedLater⟩ := h'
  refine ⟨arrived ++ arrivedLater, ?_, ?_⟩
  · rw [List.append_assoc, hqueueLater, ← List.append_assoc, hqueue, List.append_assoc]
  · rw [hacceptedLater, haccepted, List.append_assoc]

/-- The account goes on: with what is taken now, all that was taken is known again. -/
theorem Flows.append_datagrams (h : Flows later t u)
    (haccount : taken ++ t.socket.datagrams = t.accepted) :
    (taken ++ later) ++ u.socket.datagrams = u.accepted := by
  obtain ⟨arrived, hqueue, haccepted⟩ := h
  rw [haccepted, ← haccount, List.append_assoc, hqueue, List.append_assoc]

/-- What comes out of a queue that was empty was accepted meanwhile. -/
theorem Flows.mem_accepted (h : Flows taken t u) (hqueue : t.socket.datagrams = [])
    {datagram : Datagram} (hmem : datagram ∈ taken) : datagram ∈ u.accepted := by
  obtain ⟨arrived, htaken, haccepted⟩ := h
  rw [hqueue, List.nil_append] at htaken
  rw [haccepted, ← htaken]
  exact List.mem_append_right _ (List.mem_append_left _ hmem)

/-! ## What happens to a socket -/

theorem flows_note {notices : List Notice} (h : ∀ notice ∈ notices, notice.IsSilent) :
    Flows [] t (t.note notices) :=
  flows_of_same rfl (by rw [accepted_note, Notice.foldl_tally_of_silent h])

theorem flows_handle (t : Timeline) (event : Event) : Flows [] t (t.handle event) := by
  obtain ⟨arrived, hqueue, hnotices, -⟩ := t.socket.datagrams_handle event
  have haccepted : (t.handle event).accepted = (t.note (t.socket.handle event).1).accepted := rfl
  exact ⟨arrived, hqueue, by rw [haccepted, accepted_note, hnotices]⟩

theorem flows_arrive (t : Timeline) (delivery : Delivery) : Flows [] t (t.arrive delivery) := by
  rw [arrive]
  split
  · split
    · exact flows_handle (t.disconnect delivery.link) _
    · exact flows_handle t _
  · exact .refl t

theorem flows_finish (t : Timeline) (error : Option OsError) :
    Flows [] t (t.use (t.socket.finish error)) :=
  flows_of_same (Socket.datagrams_finish _ _) rfl

theorem flows_close (t : Timeline) : Flows [] t t.close := by
  cases hlink : t.socket.link with
  | none =>
    rw [close_of_no_link hlink]
    exact flows_finish t none
  | some link =>
    have hhangUp := flows_arrive (t.use { t.socket with link := none }) ⟨t.now, link, .loss none⟩
    rw [close_of_link hlink]
    have hdropped : Flows [] t (t.dropLink link) := hhangUp
    exact hdropped.trans (flows_finish _ none)

theorem flows_take (t : Timeline) : Flows t.socket.queue.head?.join.toList t t.take.2 :=
  ⟨[], by rw [List.append_nil]; exact t.socket.datagrams_take, (List.append_nil _).symm⟩

/-- Whatever happens, datagrams flow through the queue. -/
theorem Occurs.flows {moments : List Moment} (h : Occurs t moments u) :
    Flows (moments.filterMap Moment.taken?) t u := by
  cases h with
  | clock | callDue => exact flows_of_same rfl rfl
  | called delivery rest =>
    rw [taken_arrivals]
    exact flows_arrive (t.withCalled rest) delivery
  | agenda delivery rest =>
    rw [taken_arrivals]
    exact flows_arrive (t.withAgenda rest) delivery
  | event event => exact flows_handle t event
  | close => exact flows_close t
  | take =>
    have htake := flows_take t
    cases hhead : t.socket.queue.head?.join <;> rw [hhead] at htake <;>
      simpa [Moment.taken?, hhead] using htake

theorem History.flows {moments : List Moment} (h : History t moments u) :
    Flows (moments.filterMap Moment.taken?) t u := by
  induction h with
  | nil => exact .refl _
  | snoc _ hlast ih =>
    rw [List.filterMap_append]
    exact ih.trans hlast.flows

/-- What is handed out is what flows out of the queue. -/
theorem Hands.flows (h : Hands t taken u) : Flows taken t u := by
  obtain ⟨moments, hhistory, rfl⟩ := h
  exact hhistory.flows

theorem flows_sleep (t : Timeline) (length : Span) : Flows [] t (t.sleep length) :=
  (passes_sleep t length).hands.flows

theorem flows_awaitNext (t : Timeline) (limits : Limits) (endsAt : Option Instant) :
    Flows (handed (t.awaitNext limits endsAt).1) t (t.awaitNext limits endsAt).2 := by
  unfold awaitNext
  dsimp only
  split
  · refine flows_note ?_
    intro notice hnotice
    rw [List.mem_singleton.1 hnotice]
    exact fun _ => rfl
  · split
    · exact (hands_receive t _).flows
    · exact .refl t

theorem flows_of_awaitNext {limits : Limits} {endsAt : Option Instant}
    {result : Except Failure (Option Datagram)} (h : t.awaitNext limits endsAt = (result, u)) :
    Flows (handed result) t u := by
  have hflows := flows_awaitNext t limits endsAt
  rwa [h] at hflows

theorem flows_awaitMany (limits : Limits) (endsAt : Option Instant) (t : Timeline) :
    Flows (awaitMany limits endsAt t).datagrams t (awaitMany limits endsAt t).timeline := by
  fun_induction awaitMany limits endsAt t with
  | case1 t failure after hnext => exact flows_of_awaitNext hnext
  | case2 t after hnext => exact flows_of_awaitNext hnext
  | case3 t datagram after hnext hpending rest ih => exact (flows_of_awaitNext hnext).trans ih

theorem flows_gather (t : Timeline) (limits : Limits) :
    Flows (t.gather .many limits).datagrams t (t.gather .many limits).timeline := by
  unfold gather
  dsimp only
  split
  · exact flows_awaitMany limits _ t
  · exact .refl t

/-! ## Opening and asking -/

theorem flows_openTo {aimed : Timeline} (hqueue : aimed.socket.datagrams = t.socket.datagrams)
    (haccepted : aimed.accepted = t.accepted) (destination : Destination) (broadcast : Bool) :
    Flows [] t (aimed.openTo destination broadcast).2 := by
  have haimed : Flows [] t aimed := flows_of_same hqueue haccepted
  rw [openTo]
  split
  next error closed hopening =>
    exact haimed.trans (flows_close { aimed with links := aimed.links ++ closed.toList })
  next link hopening =>
    have hnoted : Flows [] (aimed.attach link) ((aimed.attach link).note
        [.connected aimed.socket.name, .opened aimed.socket.name
          ⟨destination.family, Network.ownAddress destination.family, Network.ownPort⟩
          broadcast]) := by
      refine flows_note ?_
      simp [Notice.IsSilent, Notice.tally]
    exact haimed.trans hnoted

theorem flows_openSocket (t : Timeline) : Flows [] t t.openSocket.2 := by
  rw [openSocket]
  dsimp only
  split
  · exact .refl t
  · exact .refl t
  · split
    · exact flows_of_same rfl rfl
    · refine flows_openTo ?_ ?_ _ _ <;> rfl

theorem flows_send (t : Timeline) (data : List UInt8) : Flows [] t (t.send data).2 := by
  rw [send]
  split
  next link destination _ _ =>
    have hnoted : Flows [] t (t.note [.sending t.socket.name destination data]) := by
      refine flows_note ?_
      simp [Notice.IsSilent, Notice.tally]
    dsimp only
    split
    · exact hnoted
    · exact hnoted
  · exact .refl t

theorem flows_question (t : Timeline) (data : List UInt8) : Flows [] t (t.question data).2 := by
  have hopen := flows_openSocket t
  rw [question]
  split
  next failure u heq =>
    rw [heq] at hopen
    exact hopen
  next u heq =>
    rw [heq] at hopen
    exact hopen.trans (flows_send u data)

/-! ## Nothing comes in where nothing was opened -/

theorem arrive_of_links_eq_nil (h : t.links = []) (delivery : Delivery) :
    t.arrive delivery = t := by
  have hconnected : t.isConnected delivery.link = false := by
    rw [isConnected, h]
    rfl
  rw [arrive, hconnected]
  rfl

theorem Pass.of_links_eq_nil (h : Pass t u) (hlinks : t.links = []) :
    u.links = [] ∧ u.socket = t.socket := by
  cases h with
  | clock | callDue => exact ⟨hlinks, rfl⟩
  | called delivery rest =>
    rw [arrive_of_links_eq_nil (t := t.withCalled rest) hlinks]
    exact ⟨hlinks, rfl⟩
  | agenda delivery rest =>
    rw [arrive_of_links_eq_nil (t := t.withAgenda rest) hlinks]
    exact ⟨hlinks, rfl⟩

theorem Passes.of_links_eq_nil (h : Passes t u) (hlinks : t.links = []) :
    u.links = [] ∧ u.socket = t.socket := by
  induction h with
  | refl => exact ⟨hlinks, rfl⟩
  | tail _ hlast ih =>
    obtain ⟨hempty, hsocket⟩ := hlast.of_links_eq_nil ih.1
    exact ⟨hempty, hsocket.trans ih.2⟩

end Timeline

end SqlResolution
