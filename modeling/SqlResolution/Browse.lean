import SqlResolution.Collection
import SqlResolution.Response

/-!
# Browsing

A browse asks for all instances and hands them out as the answers come in. It is
entered once, which opens its socket and sends the question, and iterated once;
closing it, at any time, gives the socket back.

An answer that cannot be read is skipped with a notice. A failure of the transport
ends the browse as failed, whatever state it was in; any other end completes it,
and how many instances were found does not matter. A value that cannot be dealt
with at all, or a time that was left blank, ends only the iteration, and leaves the
browse to be closed.

An iteration is a cursor: it knows when its time ends and which instances of the
last answer are still to be handed out. Several cursors may be made, but only the
first to be moved gets to see an answer.
-/

namespace SqlResolution

/-- A browse, and the timeline as it stands. -/
structure Browse where
  name : SocketName
  limits : Limits
  state : State
  yielded : Nat
  datagrams : Nat
  malformed : Nat
  holdsSocket : Bool
  isIterated : Bool
  timeline : Timeline

/-- How far an iteration has come. -/
inductive Cursor where
  | fresh
  | running (endsAt : Option Instant) (instances : List Instance)
  | done
  deriving DecidableEq

/-- What a whole iteration has handed out, the failure that ended it, if one did, and the browse
after it. -/
structure Browsed where
  instances : List Instance
  failure : Option Failure
  browse : Browse

namespace Timeline

/-- Opens the socket in use and sends a question. -/
def question (t : Timeline) (data : List UInt8) : Outcome Unit :=
  match t.openSocket with
  | (.error failure, t) => (.error failure, t)
  | (.ok (), t) => t.send data

end Timeline

namespace Browse

def new (timeline : Timeline) (name : SocketName) (limits : Limits) : Browse :=
  ⟨name, limits, .idle, 0, 0, 0, false, false, timeline⟩

def text (browse : Browse) : String :=
  s!"SsrpBrowseRequest({browse.name.place}, state={browse.state.label})"

def note (browse : Browse) (notices : List Notice) : Browse :=
  { browse with timeline := browse.timeline.note notices }

/-- Goes over to a state, with a notice that still shows the one before. -/
def setState (browse : Browse) (state : State) : Browse :=
  { browse.note [.stateChanged browse.text state] with state }

/-- Gives the socket back, if the browse holds one. -/
def releaseSocket (browse : Browse) : Browse :=
  if browse.holdsSocket then { browse with holdsSocket := false, timeline := browse.timeline.close }
  else browse

/-- Ends the browse, if it has not ended. -/
def close (browse : Browse) : Browse :=
  let browse := browse.releaseSocket
  if browse.state.isTerminal then browse else browse.setState .completed

/-- The browse has failed. -/
def abandon (browse : Browse) : Browse :=
  (browse.setState .failed).close

/-- Opens a socket and asks for all instances. -/
def enter (browse : Browse) : Except Failure Unit × Browse :=
  if browse.state ≠ .idle then (.error (.misuse (.alreadyStarted browse.text)), browse)
  else
    let socket := Socket.new browse.name none Protocol.maxQueueSize
    let (result, timeline) := (browse.timeline.use socket).question [Protocol.enumerateOpcode]
    let browse := { browse with holdsSocket := true, timeline }
    match result with
    | .error failure => (.error failure, browse.abandon)
    | .ok () => (.ok (), browse.setState .requestSent)

/-! ## Answers -/

/-- Counts instances that are handed out. -/
def handOut (browse : Browse) (count : Nat) : Browse :=
  { browse with yielded := browse.yielded + count }

/-- Reads an answer. One that is malformed holds no instances. -/
def readAnswer (browse : Browse) (answer : Datagram) : Except Failure (List Instance) × Browse :=
  let browse := { browse with datagrams := browse.datagrams + 1 }
  let (notices, result) := Response.read answer.peer.host answer.data
  match result with
  | .ok instances => (.ok instances, browse.note notices)
  | .error (.malformed fault) =>
    let browse := { browse with malformed := browse.malformed + 1 }
    (.ok [], browse.note (notices ++ [.malformedSkipped answer.peer fault]))
  | .error failure => (.error failure, browse.note notices)

/-- The answers have come to an end. -/
def conclude (browse : Browse) : Browse :=
  (browse.note [.browseEnded browse.text browse.datagrams browse.yielded]).close

/-- Takes one answer. The result is `none` when there are no more. -/
def advance (browse : Browse) (endsAt : Option Instant) :
    Except Failure (Option (List Instance)) × Browse :=
  let (result, timeline) := browse.timeline.awaitNext browse.limits endsAt
  let browse := { browse with timeline }
  match result with
  | .error (.transport fault) => (.error (.transport fault), browse.abandon)
  | .error failure => (.error failure, browse)
  | .ok none => (.ok none, browse.conclude)
  | .ok (some answer) =>
    let (result, browse) := browse.readAnswer answer
    (result.map some, browse)

@[simp] theorem pending_note (browse : Browse) (notices : List Notice) :
    (browse.note notices).timeline.pending = browse.timeline.pending := rfl

@[simp] theorem pending_handOut (browse : Browse) (count : Nat) :
    (browse.handOut count).timeline.pending = browse.timeline.pending := rfl

@[simp] theorem pending_readAnswer (browse : Browse) (answer : Datagram) :
    (browse.readAnswer answer).2.timeline.pending = browse.timeline.pending := by
  unfold readAnswer
  dsimp only
  split <;> simp

/-- An answer that is taken is one less to come. -/
theorem pending_advance_of_some {browse after : Browse} {endsAt : Option Instant}
    {instances : List Instance} (h : browse.advance endsAt = (.ok (some instances), after)) :
    after.timeline.pending < browse.timeline.pending := by
  unfold advance at h
  dsimp only at h
  split at h
  next => cases h
  next => cases h
  next => cases h
  next answer found =>
    have taken := Timeline.pending_awaitNext_of_some (Prod.ext found rfl)
    have after_eq := congrArg Prod.snd h
    dsimp only at after_eq
    rw [← after_eq, pending_readAnswer]
    exact taken

/-! ## Iterating -/

/-- Begins the one iteration of the browse, and tells when its time ends. -/
def begin (browse : Browse) : Except Failure (Option Instant) × Browse :=
  if browse.isIterated then (.error (.misuse (.alreadyIterated browse.text)), browse)
  else if !browse.holdsSocket || browse.state ≠ .requestSent then
    (.error (.misuse (.notEntered browse.text)), browse)
  else
    let browse := { browse with isIterated := true }.setState .collecting
    (browse.timeline.endOf browse.limits.total, browse)

/-- Takes answers until one holds an instance, and hands that out. -/
def fetch (endsAt : Option Instant) (browse : Browse) :
    Except Failure (Option Instance) × Cursor × Browse :=
  match h : browse.advance endsAt with
  | (.error failure, after) => (.error failure, .done, after)
  | (.ok none, after) => (.ok none, .done, after)
  | (.ok (some []), after) =>
    have : after.timeline.pending < browse.timeline.pending := pending_advance_of_some h
    fetch endsAt after
  | (.ok (some (found :: rest)), after) => (.ok (some found), .running endsAt rest, after.handOut 1)
termination_by browse.timeline.pending

/-- Moves a cursor. The result is `none` at the end, and from then on. -/
def next (browse : Browse) : Cursor → Except Failure (Option Instance) × Cursor × Browse
  | .done => (.ok none, .done, browse)
  | .running endsAt (found :: rest) => (.ok (some found), .running endsAt rest, browse.handOut 1)
  | .running endsAt [] => browse.fetch endsAt
  | .fresh =>
    match browse.begin with
    | (.error failure, browse) => (.error failure, .done, browse)
    | (.ok endsAt, browse) => browse.fetch endsAt

/-- Hands out all that is still to come. -/
def drain (endsAt : Option Instant) (browse : Browse) : Browsed :=
  match h : browse.advance endsAt with
  | (.error failure, after) => ⟨[], some failure, after⟩
  | (.ok none, after) => ⟨[], none, after⟩
  | (.ok (some instances), after) =>
    have : after.timeline.pending < browse.timeline.pending := pending_advance_of_some h
    let rest := drain endsAt (after.handOut instances.length)
    { rest with instances := instances ++ rest.instances }
termination_by browse.timeline.pending

/-- Iterates the browse from the beginning to the end. -/
def iterate (browse : Browse) : Browsed :=
  match browse.begin with
  | (.error failure, browse) => ⟨[], some failure, browse⟩
  | (.ok endsAt, browse) => browse.drain endsAt

def collect (browse : Browse) : Except Failure (List Instance) × Browse :=
  let browsed := browse.iterate
  match browsed.failure with
  | some failure => (.error failure, browsed.browse)
  | none => (.ok browsed.instances, browsed.browse)

/-- Enters the browse, iterates it, and closes it whatever happens. One that could not be entered
is closed already. -/
def run (browse : Browse) : Browsed :=
  match browse.enter with
  | (.error failure, browse) => ⟨[], some failure, browse⟩
  | (.ok (), browse) =>
    let browsed := browse.iterate
    { browsed with browse := browsed.browse.close }

def sleep (browse : Browse) (length : Span) : Browse :=
  { browse with timeline := browse.timeline.sleep length }

end Browse

end SqlResolution
