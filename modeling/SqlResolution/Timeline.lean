import SqlResolution.Network

/-!
# Timelines

A timeline is a network in time: the clock, the links that were opened, what was
sent, the log, the socket in use, and the agenda of what is still to arrive.

The clock stands still while the program works, and moves only while it waits.
Then arrivals are delivered in the order of their times, those of one time in the
order in which they were put on the agenda. The clock goes from one time for which
it waits to the next that is not due by then: all that is due at an instant comes
before the program goes on, whatever made it go on. An arrival at the very end of a
wait is still in time; one just behind it comes too late for the wait, but not for
the queue.

To sleep for no time is not to wait. What is due is only called then: the program
goes on before it comes in, and it comes in as soon as the program waits or sleeps
again.

A wait either makes the socket ready, or is over in time, or is cancelled. It can
make the queue longer only by what was called or is on the agenda, and so the sum of
the three, `Timeline.pending`, grows in no step but a question to the network. This
is the measure by which collecting ends.
-/

namespace SqlResolution

/-- An event on its way to a link. -/
structure Delivery where
  time : Instant
  link : Nat
  event : Event
  deriving DecidableEq, Repr

/-- Puts a delivery on an agenda, behind all that are not later. -/
def Delivery.insert (delivery : Delivery) : List Delivery → List Delivery
  | [] => [delivery]
  | other :: rest =>
    if other.time ≤ delivery.time then other :: delivery.insert rest
    else delivery :: other :: rest

/-- A datagram that went out. -/
structure Sent where
  host : String
  port : Port
  data : List UInt8
  time : Instant
  deriving DecidableEq, Repr

/-- A notice with its place in time. Within an instant the turn counts how often the program and
what it waits for took over from one another; in even turns it is the program that acts. -/
structure Entry where
  time : Instant
  turn : Nat
  notice : Notice

/-- A network, what has happened on it, and what is still to arrive. -/
structure Timeline where
  network : Network
  now : Instant
  turn : Nat
  cancelAt : Option Instant
  called : List Delivery
  agenda : List Delivery
  links : List Link
  sent : List Sent
  log : List Entry
  socket : Socket

/-- How a wait ends. -/
inductive Wake where
  | ready
  | timeUp
  | cancelled
  deriving DecidableEq, Repr

namespace Timeline

/-- The beginning: nothing has happened, and no socket is in use. -/
def new (network : Network) : Timeline :=
  ⟨network, 0, 0, none, [], [], [], [], [], .unused⟩

def note (t : Timeline) (notices : List Notice) : Timeline :=
  { t with log := t.log ++ notices.map fun notice => ⟨t.now, t.turn, notice⟩ }

def notices (t : Timeline) : List Notice :=
  t.log.map (·.notice)

/-- Another socket is used from now on. -/
def use (t : Timeline) (socket : Socket) : Timeline :=
  { t with socket }

/-- What happens next is cancelled after a time, if one is given. -/
def cancelAfter (t : Timeline) (length : Option Span) : Timeline :=
  { t with cancelAt := length.map t.now.after }

def handle (t : Timeline) (event : Event) : Timeline :=
  let (notices, socket) := t.socket.handle event
  (t.note notices).use socket

/-! ## Links -/

/-- A link takes part in what happens on the network. -/
def isConnected (t : Timeline) (link : Nat) : Bool :=
  (t.links[link]?.map (·.isConnected)).getD false

/-- The connection of a link has ended. -/
def disconnect (t : Timeline) (link : Nat) : Timeline :=
  { t with links := t.links.modify link fun found => { found with isConnected := false } }

/-- A link is given back to the system. -/
def release (t : Timeline) (link : Nat) : Timeline :=
  { t with links := t.links.modify link fun found => { found with isClosed := true } }

/-! ## Time -/

/-- The instant that the clock shows at a time to come; what is due happens now. -/
def instantOf (t : Timeline) (time : Instant) : Instant :=
  if time.isDue t.now then t.now else time

/-- What the program waits for comes at a time. -/
def networkAt (t : Timeline) (time : Instant) : Timeline :=
  if t.now < time then { t with now := time, turn := 1 }
  else { t with turn := t.turn + (t.turn + 1) % 2 }

/-- It is the program's turn, at the same time. -/
def programTurn (t : Timeline) : Timeline :=
  { t with turn := t.turn + t.turn % 2 }

/-- The program is cancelled at a time. At a later time this comes before all else that happens
then; at the same time, after all that has happened. -/
def cancelled (t : Timeline) (time : Instant) : Timeline :=
  if t.now < time then { t with now := time, turn := 0, cancelAt := none }
  else { t.networkAt time with cancelAt := none }

/-- Delivers an event. A link that is not connected takes none. -/
def deliver (t : Timeline) (delivery : Delivery) : Timeline :=
  let t := t.networkAt (t.instantOf delivery.time)
  if t.isConnected delivery.link then
    match delivery.event with
    | .loss error => (t.disconnect delivery.link).handle (.loss error)
    | event => t.handle event
  else t

/-- Delivers what was called; then it is the program's turn again. -/
def deliverCalled (t : Timeline) : Timeline :=
  (t.called.foldl deliver { t with called := [] }).programTurn

/-- Calls what is due. -/
def callDue (t : Timeline) : Timeline :=
  { t with
    called := t.agenda.takeWhile (·.time.isDue t.now)
    agenda := t.agenda.dropWhile (·.time.isDue t.now) }

/-- Delivers those of an agenda that are due. -/
def deliverDue (t : Timeline) : List Delivery → Timeline
  | [] => { t with agenda := [] }
  | delivery :: rest =>
    if delivery.time.isDue t.now then deliverDue (t.deliver delivery) rest
    else { t with agenda := delivery :: rest }

/-- The program goes on, after all that is due. -/
def resume (t : Timeline) (agenda : List Delivery) : Timeline :=
  (t.deliverDue agenda).programTurn

/-- A receiver would find something. -/
def isReady (t : Timeline) : Bool :=
  t.socket.queue ≠ []

/-- What arrives at a time is in time for a wait. In one instant what was set first comes first: a
cancellation is set before the question is sent, and the limit of a wait after that. -/
def isInTime (t : Timeline) (limit : Option Instant) (time : Instant) : Bool :=
  limit.all (time ≤ ·) && t.cancelAt.all (time < ·)

/-- Nothing more arrives before the limit or the cancellation: the earlier one ends the wait, and
if both are due then, the cancellation does. Without either the wait is over at once. -/
def giveUp (t : Timeline) (limit : Option Instant) (agenda : List Delivery) : Wake × Timeline :=
  match t.cancelAt, limit with
  | some cancel, some time =>
    let reached := t.instantOf (min cancel time)
    if cancel.isDue reached then (.cancelled, (t.cancelled reached).resume agenda)
    else (.timeUp, (t.networkAt reached).resume agenda)
  | some cancel, none => (.cancelled, (t.cancelled (t.instantOf cancel)).resume agenda)
  | none, some time => (.timeUp, (t.networkAt (t.instantOf time)).resume agenda)
  | none, none => (.timeUp, t.resume agenda)

/-- Waits for the socket to be ready, while the deliveries of an agenda come in. -/
def waitFrom (limit : Option Instant) (t : Timeline) (agenda : List Delivery) : Wake × Timeline :=
  if t.isReady then (.ready, t.resume agenda)
  else
    match agenda with
    | [] => t.giveUp limit []
    | delivery :: rest =>
      if t.isInTime limit delivery.time then
        waitFrom limit (t.deliver delivery) rest
      else t.giveUp limit (delivery :: rest)

/-- Waits for the socket to be ready, until a time at most. -/
def wait (t : Timeline) (limit : Option Instant) : Wake × Timeline :=
  t.waitFrom limit t.agenda

/-- Sleeps until a time, while the deliveries of an agenda come in. -/
def sleepFrom (wakeTime : Instant) (t : Timeline) (agenda : List Delivery) : Timeline :=
  match agenda with
  | [] => (t.networkAt (t.instantOf wakeTime)).resume []
  | delivery :: rest =>
    if delivery.time < wakeTime then sleepFrom wakeTime (t.deliver delivery) rest
    else (t.networkAt (t.instantOf wakeTime)).resume (delivery :: rest)

/-- Sleeps for a time. Who sleeps for no time goes on before what is due comes in. -/
def sleep (t : Timeline) (length : Span) : Timeline :=
  let t := t.deliverCalled
  if 0 < length then t.sleepFrom (t.now.after length) t.agenda else t.callDue

/-! ## What is still to come -/

/-- What waits in the queue, was called, or is on its way. -/
def pending (t : Timeline) : Nat :=
  t.socket.queue.length + (t.called.length + t.agenda.length)

@[simp] theorem socket_note (t : Timeline) (notices : List Notice) :
    (t.note notices).socket = t.socket := rfl

@[simp] theorem socket_use (t : Timeline) (socket : Socket) : (t.use socket).socket = socket := rfl

@[simp] theorem socket_programTurn (t : Timeline) : t.programTurn.socket = t.socket := rfl

@[simp] theorem agenda_programTurn (t : Timeline) : t.programTurn.agenda = t.agenda := rfl

@[simp] theorem socket_networkAt (t : Timeline) (time : Instant) :
    (t.networkAt time).socket = t.socket := by
  unfold networkAt
  split <;> rfl

@[simp] theorem called_networkAt (t : Timeline) (time : Instant) :
    (t.networkAt time).called = t.called := by
  unfold networkAt
  split <;> rfl

@[simp] theorem agenda_networkAt (t : Timeline) (time : Instant) :
    (t.networkAt time).agenda = t.agenda := by
  unfold networkAt
  split <;> rfl

@[simp] theorem socket_cancelled (t : Timeline) (time : Instant) :
    (t.cancelled time).socket = t.socket := by
  unfold cancelled
  split <;> simp

@[simp] theorem called_cancelled (t : Timeline) (time : Instant) :
    (t.cancelled time).called = t.called := by
  unfold cancelled
  split <;> simp

/-- An event adds at most one entry to the queue. -/
theorem length_queue_handle (t : Timeline) (event : Event) :
    (t.handle event).socket.queue.length ≤ t.socket.queue.length + 1 :=
  t.socket.length_queue_handle event

theorem length_queue_deliver (t : Timeline) (delivery : Delivery) :
    (t.deliver delivery).socket.queue.length ≤ t.socket.queue.length + 1 := by
  rw [← socket_networkAt t (t.instantOf delivery.time)]
  unfold deliver
  dsimp only
  split
  · split
    · exact length_queue_handle ((t.networkAt _).disconnect _) _
    · exact length_queue_handle (t.networkAt _) _
  · exact Nat.le_succ _

@[simp] theorem called_deliver (t : Timeline) (delivery : Delivery) :
    (t.deliver delivery).called = t.called := by
  rw [← called_networkAt t (t.instantOf delivery.time)]
  unfold deliver
  dsimp only
  split
  · split <;> rfl
  · rfl

@[simp] theorem agenda_deliver (t : Timeline) (delivery : Delivery) :
    (t.deliver delivery).agenda = t.agenda := by
  rw [← agenda_networkAt t (t.instantOf delivery.time)]
  unfold deliver
  dsimp only
  split
  · split <;> rfl
  · rfl

/-- To deliver takes from what is still to come and adds no more to the queue. -/
theorem pending_deliver (t : Timeline) (delivery : Delivery) :
    (t.deliver delivery).pending ≤ t.pending + 1 := by
  have step := length_queue_deliver t delivery
  unfold pending
  rw [called_deliver, agenda_deliver]
  omega

theorem pending_foldl_deliver (called : List Delivery) (t : Timeline) :
    (called.foldl deliver t).pending ≤ t.pending + called.length := by
  induction called generalizing t with
  | nil => exact Nat.le_refl _
  | cons delivery rest ih =>
    have step := pending_deliver t delivery
    have later := ih (t.deliver delivery)
    rw [List.foldl_cons, List.length_cons]
    omega

/-- What was called is to come until it is delivered. -/
theorem pending_deliverCalled (t : Timeline) : t.deliverCalled.pending ≤ t.pending := by
  have delivered := pending_foldl_deliver t.called { t with called := [] }
  have emptied : { t with called := [] }.pending + t.called.length = t.pending := by
    unfold pending
    dsimp only [List.length_nil]
    omega
  rw [emptied] at delivered
  exact delivered

theorem pending_deliverDue (agenda : List Delivery) (t : Timeline) :
    (t.deliverDue agenda).pending ≤
      t.socket.queue.length + (t.called.length + agenda.length) := by
  induction agenda generalizing t with
  | nil => exact Nat.le_refl _
  | cons delivery rest ih =>
    have step := length_queue_deliver t delivery
    have later := ih (t.deliver delivery)
    rw [called_deliver] at later
    unfold deliverDue
    split
    · rw [List.length_cons]
      omega
    · exact Nat.le_refl _

theorem pending_resume (agenda : List Delivery) (t : Timeline) :
    (t.resume agenda).pending ≤ t.socket.queue.length + (t.called.length + agenda.length) :=
  pending_deliverDue agenda t

theorem pending_giveUp (limit : Option Instant) (agenda : List Delivery) (t : Timeline) :
    (t.giveUp limit agenda).2.pending ≤
      t.socket.queue.length + (t.called.length + agenda.length) := by
  have resumed := fun later => pending_resume agenda (t.networkAt later)
  have stopped := fun later => pending_resume agenda (t.cancelled later)
  simp only [socket_networkAt, socket_cancelled, called_networkAt, called_cancelled]
    at resumed stopped
  unfold giveUp
  split
  · dsimp only
    split
    · exact stopped _
    · exact resumed _
  · exact stopped _
  · exact resumed _
  · exact pending_resume agenda t

theorem pending_waitFrom (limit : Option Instant) (agenda : List Delivery) (t : Timeline) :
    (t.waitFrom limit agenda).2.pending ≤
      t.socket.queue.length + (t.called.length + agenda.length) := by
  induction agenda generalizing t with
  | nil =>
    unfold waitFrom
    split
    · exact pending_resume [] t
    · exact pending_giveUp limit [] t
  | cons delivery rest ih =>
    have step := length_queue_deliver t delivery
    have later := ih (t.deliver delivery)
    rw [called_deliver] at later
    unfold waitFrom
    split
    · exact pending_resume _ t
    · dsimp only
      split
      · rw [List.length_cons]
        omega
      · exact pending_giveUp limit _ t

/-- A wait adds nothing to what is to come. -/
theorem pending_wait (t : Timeline) (limit : Option Instant) :
    (t.wait limit).2.pending ≤ t.pending :=
  pending_waitFrom limit t.agenda t

end Timeline

end SqlResolution
