import SqlResolution.Exchange

/-!
# Collecting answers

After its question an exchange takes either one answer or many. One is awaited for
a time. Many are taken until none has come for a while, or until the whole time is
over, which counts from the sending of the question. That time is looked at first:
once it is over, nothing more is taken, not even from the queue.

That a time was left blank comes out when it is needed: the time for one answer if
there is none to take, and those for many at the latest before the first is taken.
-/

namespace SqlResolution

/-- How many answers an exchange takes. -/
inductive Mode where
  | one
  | many
  deriving DecidableEq, Repr

/-- For how long an exchange waits: for its one answer; for the next of many; for all of them. -/
structure Limits where
  response : Setting Timeout
  inactivity : Setting Timeout
  total : Setting Timeout
  deriving DecidableEq, Repr

/-- The limits of an exchange for which no others are asked. -/
def Limits.default : Limits :=
  ⟨.value .defaultResponse, .value .defaultInactivity, .value .defaultTotal⟩

/-- Answers that were taken, the failure that ended this, if one did, and the timeline after it. -/
structure Collected where
  datagrams : List Datagram
  failure : Option Failure
  timeline : Timeline

namespace Timeline

def awaitOne (t : Timeline) (response : Setting Timeout) : Outcome Datagram :=
  match t.receive (response.map Timeout.length) with
  | (.ok (some datagram), t) => (.ok datagram, t)
  | (.ok none, t) => (.error (.noResponse t.socket.name (response.textBy Timeout.text)), t)
  | (.error failure, t) => (.error failure, t)

/-- The end of the whole time: it counts from the question, or else from now. -/
def endOf (t : Timeline) (total : Setting Timeout) : Except Failure (Option Instant) :=
  match total with
  | .value timeout => .ok (timeout.deadline (t.socket.sentAt.getD t.now))
  | .blank => .error (.blankSetting .total)

/-- Awaits the next of many answers. The result is `none` when there is none. -/
def awaitNext (t : Timeline) (limits : Limits) (endsAt : Option Instant) :
    Outcome (Option Datagram) :=
  let remaining := endsAt.map (·.since t.now)
  if isOver remaining then
    (.ok none, t.note [.waitExhausted t.socket.name (limits.total.textBy Timeout.text)])
  else
    match limits.inactivity with
    | .value timeout => t.receive (.value (timeout.within remaining))
    | .blank => (.error (.blankSetting .inactivity), t)

theorem pending_awaitNext_of_some {t taken : Timeline} {limits : Limits} {endsAt : Option Instant}
    {datagram : Datagram} (h : t.awaitNext limits endsAt = (.ok (some datagram), taken)) :
    taken.pending < t.pending := by
  unfold awaitNext at h
  dsimp only at h
  split at h
  · cases h
  · split at h
    · exact pending_receive_of_some h
    · cases h

def awaitMany (limits : Limits) (endsAt : Option Instant) (t : Timeline) : Collected :=
  match h : t.awaitNext limits endsAt with
  | (.error failure, after) => ⟨[], some failure, after⟩
  | (.ok none, after) => ⟨[], none, after⟩
  | (.ok (some datagram), after) =>
    have : after.pending < t.pending := pending_awaitNext_of_some h
    let rest := awaitMany limits endsAt after
    { rest with datagrams := datagram :: rest.datagrams }
termination_by t.pending

/-- Takes the answers of an exchange. -/
def gather (t : Timeline) (mode : Mode) (limits : Limits) : Collected :=
  match mode with
  | .one =>
    match t.awaitOne limits.response with
    | (.ok datagram, t) => ⟨[datagram], none, t⟩
    | (.error failure, t) => ⟨[], some failure, t⟩
  | .many =>
    match t.endOf limits.total with
    | .ok endsAt => awaitMany limits endsAt t
    | .error failure => ⟨[], some failure, t⟩

/-- Asks a question and takes the answers. Of a failure on the way only the failure remains. -/
def ask (t : Timeline) (data : List UInt8) (mode : Mode) (limits : Limits) :
    Outcome (List Datagram) :=
  match t.send data with
  | (.error failure, t) => (.error failure, t)
  | (.ok (), t) =>
    let collected := t.gather mode limits
    match collected.failure with
    | some failure => (.error failure, collected.timeline)
    | none => (.ok collected.datagrams, collected.timeline)

/-- A whole exchange: the socket in use is opened, the question asked, and the socket closed. -/
def collect (t : Timeline) (data : List UInt8) (mode : Mode) (limits : Limits) :
    Outcome (List Datagram) :=
  match t.openSocket with
  | (.error failure, t) => (.error failure, t)
  | (.ok (), t) =>
    let (result, t) := t.ask data mode limits
    (result, t.close)

end Timeline

end SqlResolution
