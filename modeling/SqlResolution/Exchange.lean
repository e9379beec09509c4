import SqlResolution.Timeline

/-!
# Exchanges

An exchange opens the socket in use, sends datagrams to the first address that its
host's name resolves to, and receives what comes back.

A step that the system refuses leaves a closed socket behind, except that a name
without an address leaves the socket as it was. Closing a socket ends its stream
at once, and closing it again does nothing.
-/

namespace SqlResolution

/-- What becomes of a step that may fail: its result, and the timeline after it. -/
abbrev Outcome (α : Type) := Except Failure α × Timeline

namespace Timeline

/-- Decides whether the socket may broadcast, unless that was said before. -/
def decideBroadcast (t : Timeline) (destination : Destination) : Except Address.V4Fault Bool :=
  match t.socket.broadcast with
  | some decided => .ok decided
  | none => t.network.needsBroadcast destination

/-! ## Closing and opening -/

/-- The connection of a link, if it stands, is lost without an error. -/
def hangUp (t : Timeline) (link : Nat) : Timeline :=
  if t.isConnected link then (t.disconnect link).handle (.loss none) else t

def close (t : Timeline) : Timeline :=
  match t.socket.link with
  | none => t.use (t.socket.finish none)
  | some link =>
    let t := ((t.use { t.socket with link := none }).hangUp link).release link
    t.use (t.socket.finish none)

/-- Opens the socket in use towards a destination. -/
def openTo (t : Timeline) (destination : Destination) (broadcast : Bool) : Outcome Unit :=
  match t.network.openLink destination.family broadcast with
  | .failed error closed =>
    let t := { t with links := t.links ++ closed.toList }.close
    (.error (.transport (.cannotOpen t.socket.name error)), t)
  | .opened link =>
    let socket := { t.socket with link := some t.links.length }
    let t := { t with links := t.links ++ [link] }.use socket
    let own := ⟨destination.family, Network.ownAddress destination.family, Network.ownPort⟩
    (.ok (), t.note [.connected socket.name, .opened socket.name own broadcast])

/-- Resolves the name of the host and opens the socket towards its first address. -/
def openSocket (t : Timeline) : Outcome Unit :=
  let name := t.socket.name
  match t.network.resolve name.host with
  | .error error => (.error (.transport (.unresolved name.host (some error))), t)
  | .ok [] => (.error (.transport (.unresolved name.host none)), t)
  | .ok ((family, host) :: _) =>
    let destination := ⟨family, host, name.port⟩
    let t := t.use { t.socket with destination := some destination }
    match t.decideBroadcast destination with
    | .error fault => (.error (.interfaceAddress fault), t)
    | .ok broadcast =>
      (t.use { t.socket with broadcast := some broadcast }).openTo destination broadcast

/-! ## Sending and receiving -/

/-- The deliveries that a datagram to a destination brings about. -/
def deliveries (t : Timeline) (link : Nat) (destination : Destination) : List Delivery :=
  (t.network.repliesOf destination.host).map fun reply =>
    ⟨t.now.after reply.after, link, reply.answer.event destination.peer⟩

/-- A datagram goes out, and the replies to it are on their way. -/
def dispatch (t : Timeline) (link : Nat) (destination : Destination) (data : List UInt8) :
    Timeline :=
  { t with
    sent := t.sent ++ [⟨destination.host, destination.port, data, t.now⟩]
    agenda := (t.deliveries link destination).foldl (fun agenda d => d.insert agenda) t.agenda
    socket := { t.socket with sentAt := some t.now } }

/-- Sends a datagram to the destination of the socket in use. -/
def send (t : Timeline) (data : List UInt8) : Outcome Unit :=
  match t.socket.link, t.socket.destination with
  | some link, some destination =>
    let t := t.note [.sending t.socket.name destination data]
    match t.network.sendError with
    | some error => (.error (.transport (.sendFailed t.socket.name error)), t)
    | none => (.ok (), t.dispatch link destination data)
  | _, _ => (.error (.transport (.notOpen t.socket.name)), t)

def take (t : Timeline) : Option (Except Failure (Option Datagram)) × Timeline :=
  let (found, socket) := t.socket.take
  (found, t.use socket)

def takeReady (t : Timeline) : Outcome (Option Datagram) :=
  match t.take with
  | (some result, t) => (result, t)
  | (none, t) => (.ok none, t)

/-- A length of time that is over as soon as it begins. -/
def isOver (length : Option Span) : Bool :=
  length.any (· ≤ 0)

/-- Takes what was called, before anything else comes in. -/
def takeCalled (t : Timeline) : Outcome (Option Datagram) :=
  let (result, t) := t.takeReady
  (result, t.resume t.agenda)

/-- Waits for a time, at most, and takes what has come. The result is `none` when the time is up or
the stream has ended. -/
def await (t : Timeline) (length : Option Span) : Outcome (Option Datagram) :=
  if isOver length then (.ok none, t)
  else
    let t := t.deliverCalled
    if t.isReady then t.takeCalled
    else match t.wait (length.map t.now.after) with
    | (.ready, t) => t.takeReady
    | (.timeUp, t) => (.ok none, t)
    | (.cancelled, t) => (.error .cancelled, t)

/-- Takes what is there, or else waits for it. Only then it matters how long. -/
def receive (t : Timeline) (length : Setting (Option Span)) : Outcome (Option Datagram) :=
  match t.take with
  | (some result, t) => (result, t)
  | (none, t) =>
    match length with
    | .value length => t.await length
    | .blank => (.error (.blankSetting .response), t)

/-! ## What is received is no longer to come -/

theorem pending_take (t : Timeline) : t.take.2.pending ≤ t.pending :=
  Nat.add_le_add_right t.socket.length_queue_take _

theorem pending_take_of_some {t taken : Timeline} {datagram : Datagram}
    (h : t.take = (some (.ok (some datagram)), taken)) : taken.pending < t.pending := by
  have found_eq := congrArg Prod.fst h
  have taken_eq : t.take.2 = taken := congrArg Prod.snd h
  rw [← taken_eq]
  exact Nat.add_lt_add_right (Socket.length_queue_take_of_some (Prod.ext found_eq rfl)) _

theorem pending_takeReady_of_some {t taken : Timeline} {datagram : Datagram}
    (h : t.takeReady = (.ok (some datagram), taken)) : taken.pending < t.pending := by
  unfold takeReady at h
  split at h
  next take_eq =>
    cases h
    exact pending_take_of_some take_eq
  next => cases h

theorem pending_takeCalled_of_some {t taken : Timeline} {datagram : Datagram}
    (h : t.takeCalled = (.ok (some datagram), taken)) : taken.pending < t.pending := by
  have found_eq := congrArg Prod.fst h
  have taken_eq : t.takeReady.2.resume t.takeReady.2.agenda = taken := congrArg Prod.snd h
  rw [← taken_eq]
  exact Nat.lt_of_le_of_lt (pending_resume _ _)
    (pending_takeReady_of_some (Prod.ext found_eq rfl))

theorem pending_await_of_some {t received : Timeline} {length : Option Span}
    {datagram : Datagram} (h : t.await length = (.ok (some datagram), received)) :
    received.pending < t.pending := by
  have hcalled := pending_deliverCalled t
  unfold await at h
  dsimp only at h
  split at h
  · cases h
  · split at h
    · exact Nat.lt_of_lt_of_le (pending_takeCalled_of_some h) hcalled
    · have hwait := pending_wait t.deliverCalled (length.map t.deliverCalled.now.after)
      split at h
      next wait_eq =>
        rw [wait_eq] at hwait
        have htaken := Nat.lt_of_lt_of_le (pending_takeReady_of_some h) hwait
        exact Nat.lt_of_lt_of_le htaken hcalled
      next => cases h
      next => cases h

/-- A datagram that is received is one less to come. -/
theorem pending_receive_of_some {t received : Timeline} {length : Setting (Option Span)}
    {datagram : Datagram} (h : t.receive length = (.ok (some datagram), received)) :
    received.pending < t.pending := by
  unfold receive at h
  split at h
  next take_eq =>
    cases h
    exact pending_take_of_some take_eq
  next taken take_eq =>
    have htaken := pending_take t
    rw [take_eq] at htaken
    split at h
    · exact Nat.lt_of_lt_of_le (pending_await_of_some h) htaken
    · cases h

end Timeline

end SqlResolution
