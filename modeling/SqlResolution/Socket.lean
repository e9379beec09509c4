import SqlResolution.Notice
import SqlResolution.Time

/-!
# Sockets

A socket serves one exchange. What arrives waits in a queue until it is taken.
The queue is bounded, and it is the newest datagram that finds no room.

The stream of datagrams ends once: the first cause is kept, later ones change
nothing, and what arrives afterwards is ignored. The end puts a marker into the
queue, behind all datagrams, to wake a receiver. A full queue needs no marker,
because nobody waits in front of a full queue, and who empties it later finds the
end recorded in the stream itself.
-/

namespace SqlResolution

/-- Whether datagrams still come. An end may have an error for its cause. -/
inductive Stream where
  | flowing
  | ended (error : Option OsError)
  deriving DecidableEq, Repr

/-- Something that reaches a socket from the network. -/
inductive Event where
  | datagram (datagram : Datagram)
  | failure (error : OsError)
  | loss (error : Option OsError)
  deriving DecidableEq, Repr

/-- A socket. Whether it may broadcast is decided when it is opened, unless it was said before.
A capacity that is not above zero sets no bound; in the queue `none` is the marker of the end. -/
structure Socket where
  name : SocketName
  capacity : Int
  broadcast : Option Bool
  destination : Option Destination
  link : Option Nat
  queue : List (Option Datagram)
  stream : Stream
  received : Nat
  sentAt : Option Instant
  deriving DecidableEq, Repr

namespace Socket

def new (name : SocketName) (broadcast : Option Bool) (capacity : Int) : Socket :=
  ⟨name, capacity, broadcast, none, none, [], .flowing, 0, none⟩

/-- What stands for a socket while there is none. -/
def unused : Socket :=
  new ⟨"", .value 0⟩ none 0

def hasEnded (socket : Socket) : Bool :=
  socket.stream ≠ .flowing

def endError? (socket : Socket) : Option OsError :=
  match socket.stream with
  | .flowing => none
  | .ended error => error

/-- No room is left in the queue. -/
def isFull (socket : Socket) : Bool :=
  0 < socket.capacity && socket.capacity ≤ socket.queue.length

/-! ## Arrivals -/

/-- A datagram arrives. It is counted even if the queue has no room for it. -/
def accept (socket : Socket) (datagram : Datagram) : List Notice × Socket :=
  if socket.hasEnded then ([], socket)
  else
    let counted := { socket with received := socket.received + 1 }
    let arrival := Notice.received socket.name datagram.peer datagram.data
    if socket.isFull then ([arrival, .queueFull socket.name datagram.peer], counted)
    else ([arrival], { counted with queue := socket.queue ++ [some datagram] })

/-- The stream ends, unless it has ended before. -/
def finish (socket : Socket) (error : Option OsError) : Socket :=
  if socket.hasEnded then socket
  else
    { socket with
      stream := .ended error
      queue := if socket.isFull then socket.queue else socket.queue ++ [none] }

/-- An error is reported. That one host has nobody listening does not end the stream: another
may still answer. -/
def fail (socket : Socket) (error : OsError) : List Notice × Socket :=
  if error.isRefused then ([.refused socket.name error], socket)
  else ([.transportError socket.name error], socket.finish (some error))

/-- The connection to the network is lost. -/
def lose (socket : Socket) (error : Option OsError) : List Notice × Socket :=
  ([.connectionLost socket.name error], socket.finish error)

def handle (socket : Socket) : Event → List Notice × Socket
  | .datagram datagram => socket.accept datagram
  | .failure error => socket.fail error
  | .loss error => socket.lose error

/-! ## Taking -/

/-- What a receiver learns at the end of the stream. -/
def atEnd (socket : Socket) : Except Failure (Option Datagram) :=
  match socket.endError? with
  | some error => .error (.transport (.receiveFailed socket.name error))
  | none => .ok none

/-- Takes what is there without waiting: the oldest datagram, or else the end of the stream.
The outcome is `none` if there is neither. -/
def take (socket : Socket) : Option (Except Failure (Option Datagram)) × Socket :=
  match socket.queue with
  | some datagram :: rest => (some (.ok (some datagram)), { socket with queue := rest })
  | none :: rest => (some socket.atEnd, { socket with queue := rest })
  | [] => (if socket.hasEnded then some socket.atEnd else none, socket)

/-! ## The queue -/

theorem length_queue_accept (socket : Socket) (datagram : Datagram) :
    (socket.accept datagram).2.queue.length ≤ socket.queue.length + 1 := by
  unfold accept
  split
  · exact Nat.le_succ _
  · split
    · exact Nat.le_succ _
    · simp

theorem length_queue_finish (socket : Socket) (error : Option OsError) :
    (socket.finish error).queue.length ≤ socket.queue.length + 1 := by
  unfold finish
  split
  · exact Nat.le_succ _
  · by_cases hfull : socket.isFull <;> simp [hfull]

theorem length_queue_handle (socket : Socket) (event : Event) :
    (socket.handle event).2.queue.length ≤ socket.queue.length + 1 := by
  cases event with
  | datagram datagram => exact length_queue_accept socket datagram
  | failure error =>
    show (socket.fail error).2.queue.length ≤ _
    unfold fail
    split
    · exact Nat.le_succ _
    · exact length_queue_finish socket _
  | loss error => exact length_queue_finish socket error

/-- Nothing is taken that was not in the queue. -/
theorem length_queue_take (socket : Socket) :
    (socket.take).2.queue.length ≤ socket.queue.length := by
  unfold take
  split <;> simp [*]

theorem atEnd_ne_ok_some (socket : Socket) (datagram : Datagram) :
    socket.atEnd ≠ .ok (some datagram) := by
  unfold atEnd
  split <;> simp

/-- A datagram that is taken leaves the queue. -/
theorem length_queue_take_of_some {socket taken : Socket} {datagram : Datagram}
    (h : socket.take = (some (.ok (some datagram)), taken)) :
    taken.queue.length < socket.queue.length := by
  unfold take at h
  split at h
  next queue_eq =>
    cases h
    simp [queue_eq]
  next queue_eq =>
    exact absurd (Option.some.inj (congrArg Prod.fst h)) (atEnd_ne_ok_some socket datagram)
  next queue_eq =>
    split at h
    · exact absurd (Option.some.inj (congrArg Prod.fst h)) (atEnd_ne_ok_some socket datagram)
    · cases h

end Socket

end SqlResolution
