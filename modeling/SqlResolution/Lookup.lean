import SqlResolution.Browse

/-!
# Looking up

A lookup sends one question to one host and awaits one answer. It is run once, and
it leaves no socket behind, however it ends. A lookup without an answer in time
passes through being timed out before it counts as failed.
-/

namespace SqlResolution

/-- A lookup, and the timeline as it stands. -/
structure Lookup where
  name : SocketName
  request : Request
  response : Setting Timeout
  state : State
  timeline : Timeline

namespace Lookup

def new (timeline : Timeline) (name : SocketName) (request : Request)
    (response : Setting Timeout) : Lookup :=
  ⟨name, request, response, .idle, timeline⟩

def text (lookup : Lookup) : String :=
  s!"SsrpLookupRequest({lookup.request.text}, {lookup.name.place}, state={lookup.state.label})"

/-- Goes over to a state, with a notice that still shows the one before. -/
def setState (lookup : Lookup) (state : State) : Lookup :=
  { lookup with timeline := lookup.timeline.note [.stateChanged lookup.text state], state }

/-- Awaits the answer to a question that was sent. -/
def await (lookup : Lookup) : Except Failure Datagram × Lookup :=
  let lookup := (lookup.setState .requestSent).setState .awaitingOne
  let (result, timeline) := lookup.timeline.awaitOne lookup.response
  let lookup := { lookup with timeline }
  match result with
  | .error (.noResponse ..) => (result, lookup.setState .timedOut)
  | _ => (result, lookup)

/-- Sends a question over the open socket, and awaits the answer. -/
def ask (lookup : Lookup) (data : List UInt8) : Except Failure Datagram × Lookup :=
  let (result, timeline) := lookup.timeline.send data
  let lookup := { lookup with timeline }
  match result with
  | .error failure => (.error failure, lookup)
  | .ok () => lookup.await

/-- Opens a socket, asks, and closes it again. A socket that could not be opened needs no
closing. -/
def exchange (lookup : Lookup) (data : List UInt8) : Except Failure Datagram × Lookup :=
  let socket := Socket.new lookup.name none Protocol.maxQueueSize
  let (result, timeline) := (lookup.timeline.use socket).openSocket
  let lookup := { lookup with timeline }
  match result with
  | .error failure => (.error failure, lookup)
  | .ok () =>
    let (result, lookup) := lookup.ask data
    (result, { lookup with timeline := lookup.timeline.close })

/-- The outcome of a lookup that has not been run. -/
def answer (lookup : Lookup) : Except Failure Datagram × Lookup :=
  match lookup.request.encode with
  | .error fault => (.error (.encoding (.name fault)), lookup)
  | .ok data => lookup.exchange data

def run (lookup : Lookup) : Except Failure Datagram × Lookup :=
  if lookup.state ≠ .idle then (.error (.misuse (.alreadyRun lookup.text)), lookup)
  else
    match lookup.answer with
    | (.error failure, lookup) => (.error failure, lookup.setState .failed)
    | (.ok datagram, lookup) => (.ok datagram, lookup.setState .completed)

end Lookup

end SqlResolution
