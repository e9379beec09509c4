import SqlResolution.Proofs.Client
import SqlResolution.Proofs.Collection.Failing

/-!
# What a program does with a socket

A program opens a socket, sends datagrams over it, takes what comes in, one datagram at a time
or all that come in a collection, and closes it, in whatever order and as often as it likes. It
may go through a collection by itself, and do other things between its requests.

Two things are true whatever it does. What was called is due, and so waiting for it takes no
time. And the socket remembers just when the last datagram was sent over it.
-/

namespace SqlResolution

/-- Something that a program tells a socket. -/
inductive Socket.Command where
  | start
  | send (data : List UInt8)
  | step (step : Socket.Step)
  | gather (mode : Mode) (limits : Limits)
  | next (limits : Limits) (endsAt : Option Instant)
  deriving DecidableEq, Repr

/-- What a program is told. -/
inductive Socket.Told where
  | done (result : Except Failure Unit)
  | received (results : List (Except Failure (Option Datagram)))
  | gathered (datagrams : List Datagram) (failure : Option Failure)

namespace Timeline

variable {t u : Timeline} {last : List Moment}

/-- Does with the socket in use what it is told. -/
def obey (t : Timeline) : Socket.Command → Socket.Told × Timeline
  | .start =>
    let (result, t) := t.openSocket
    (.done result, t)
  | .send data =>
    let (result, t) := t.send data
    (.done result, t)
  | .step step =>
    let (results, t) := t.act step
    (.received results, t)
  | .gather mode limits =>
    let gathered := t.gather mode limits
    (.gathered gathered.datagrams gathered.failure, gathered.timeline)
  | .next limits endsAt =>
    let (result, t) := t.awaitNext limits endsAt
    (.received [result], t)

/-- The timeline after a program. -/
def obeyAll (t : Timeline) (commands : List Socket.Command) : Timeline :=
  commands.foldl (fun t command => (t.obey command).2) t

/-- What every notice leaves as it is and everything that happens to a socket preserves, waiting
preserves. -/
theorem Moves.preserves_of_occurs {P : Timeline → Prop}
    (hnote : ∀ (t : Timeline) notices, P t → P (t.note notices))
    (hoccurs : ∀ {t u : Timeline} {last}, Occurs t last u → P t → P u) (h : Moves t u) (ht : P t) :
    P u := by
  refine h.preserves (fun hmove ht => ?_) ht
  cases hmove with
  | note notices => exact hnote _ notices ht
  | clock now turn cancelAt hnow hcancel => exact hoccurs (.clock _ now turn cancelAt hnow) ht
  | called delivery rest h => exact hoccurs (.called _ delivery rest h) ht
  | agenda delivery rest h => exact hoccurs (.agenda _ delivery rest h) ht
  | callDue h => exact hoccurs (.callDue _) ht
  | take => exact hoccurs (.take _) ht

theorem CalledAreDue.moves (h : Moves t u) (ht : t.CalledAreDue) : u.CalledAreDue :=
  h.preserves_of_occurs (fun _ _ hnoted => hnoted) Occurs.calledAreDue ht

/-! ## What a socket remembers -/

/-- What was called is due, and the socket remembers when the last datagram was sent. -/
structure IsRegular (t : Timeline) : Prop where
  due : t.CalledAreDue
  sentAt : t.socket.sentAt = t.sent.getLast?.map (·.time)

theorem sentAt_handle (socket : Socket) (event : Event) :
    (socket.handle event).2.sentAt = socket.sentAt := by
  obtain ⟨queue, stream, received, hframe⟩ := Socket.handle_frame socket event
  rw [hframe]

theorem sentAt_finish (socket : Socket) (error : Option OsError) :
    (socket.finish error).sentAt = socket.sentAt := by
  obtain ⟨queue, stream, hframe⟩ := Socket.finish_frame socket error
  rw [hframe]

theorem sentAt_arrive (t : Timeline) (delivery : Delivery) :
    (t.arrive delivery).socket.sentAt = t.socket.sentAt := by
  rw [socket_arrive]
  split
  · exact sentAt_handle _ _
  · rfl

theorem sentAt_close (t : Timeline) : t.close.socket.sentAt = t.socket.sentAt := by
  rw [socket_close]
  exact sentAt_finish _ _

theorem IsRegular.of_same (h : t.IsRegular) (hdue : u.CalledAreDue)
    (hsentAt : u.socket.sentAt = t.socket.sentAt) (hsent : u.sent = t.sent) : u.IsRegular :=
  ⟨hdue, by rw [hsentAt, hsent]; exact h.sentAt⟩

theorem IsRegular.occurs (hstep : Occurs t last u) (h : t.IsRegular) : u.IsRegular := by
  have hdue := hstep.calledAreDue h.due
  cases hstep with
  | clock | callDue => exact h.of_same hdue rfl rfl
  | called delivery rest =>
    exact h.of_same hdue (sentAt_arrive (t.withCalled rest) _) (later_arrive _ _).sent
  | agenda delivery rest =>
    exact h.of_same hdue (sentAt_arrive (t.withAgenda rest) _) (later_arrive _ _).sent
  | event event => exact h.of_same hdue (sentAt_handle _ _) rfl
  | close => exact h.of_same hdue (sentAt_close t) (sent_close t)
  | take =>
    obtain ⟨queue, hsocket, -⟩ := Socket.take_frame t.socket
    refine h.of_same hdue ?_ rfl
    show t.socket.take.2.sentAt = _
    rw [hsocket]

theorem IsRegular.moves (h : Moves t u) (ht : t.IsRegular) : u.IsRegular :=
  h.preserves_of_occurs (fun _ _ hnoted => ⟨hnoted.due, hnoted.sentAt⟩) .occurs ht

theorem IsRegular.use (h : t.IsRegular) {socket : Socket}
    (hsentAt : socket.sentAt = t.socket.sentAt) : (t.use socket).IsRegular :=
  h.of_same h.due hsentAt rfl

theorem IsRegular.openTo (h : t.IsRegular) (destination : Destination) (broadcast : Bool) :
    (t.openTo destination broadcast).2.IsRegular := by
  rw [Timeline.openTo]
  split
  · exact IsRegular.occurs (.close _) ⟨h.due, h.sentAt⟩
  · exact ⟨h.due, h.sentAt⟩

theorem IsRegular.openSocket (h : t.IsRegular) : t.openSocket.2.IsRegular := by
  rw [Timeline.openSocket]
  dsimp only
  split
  · exact h
  · exact h
  · split
    · exact h.use rfl
    · refine IsRegular.openTo (IsRegular.use (h.use ?_) ?_) _ _ <;> rfl

/-- What was sent last is what the socket remembers. -/
theorem IsRegular.send (h : t.IsRegular) (data : List UInt8) : (t.send data).2.IsRegular := by
  rw [Timeline.send]
  split
  next link destination _ _ =>
    dsimp only
    split
    · exact ⟨h.due, h.sentAt⟩
    · refine ⟨h.due, ?_⟩
      show some t.now = Option.map _ (t.sent ++ [_]).getLast?
      rw [List.getLast?_concat]
      rfl
  · exact h

theorem IsRegular.act (h : t.IsRegular) (step : Socket.Step) : (t.act step).2.IsRegular := by
  cases step with
  | event event => exact h.occurs (.event t event)
  | close => exact h.occurs (.close t)
  | sleep length => exact h.moves (moves_sleep t length)
  | receive length => exact h.moves (moves_receive t length)

theorem IsRegular.gather (h : t.IsRegular) (mode : Mode) (limits : Limits) :
    (t.gather mode limits).timeline.IsRegular :=
  h.moves (moves_gather t mode limits)

theorem IsRegular.obey (h : t.IsRegular) (command : Socket.Command) :
    (t.obey command).2.IsRegular := by
  cases command with
  | start => exact h.openSocket
  | send data => exact h.send data
  | step step => exact h.act step
  | gather mode limits => exact h.gather mode limits
  | next limits endsAt => exact h.moves (moves_awaitNext t limits endsAt)

/-- Whatever a program does, the timeline stays regular. -/
theorem IsRegular.obeyAll (h : t.IsRegular) (commands : List Socket.Command) :
    (t.obeyAll commands).IsRegular := by
  induction commands generalizing t with
  | nil => exact h
  | cons command rest ih => exact ih (h.obey command)

/-- A new socket on a network on which nothing has happened. -/
theorem isRegular_new (network : Network) (name : SocketName) (broadcast : Option Bool)
    (capacity : Int) : ((new network).use (.new name broadcast capacity)).IsRegular :=
  ⟨fun _ hmem => absurd hmem List.not_mem_nil, rfl⟩

end Timeline

end SqlResolution
