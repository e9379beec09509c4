import SqlResolution.Lookup

/-!
# The client

A client knows the port of the service and how long to wait. Each of its calls
opens and closes a socket of its own, so that calls do not disturb one another:
calls made at once are each a run from the same beginning, and what they did is put
together afterwards, in the order of time.
-/

namespace SqlResolution

open SqlResolution.Text

/-- A client. -/
structure Client where
  port : Port
  limits : Limits
  deriving DecidableEq, Repr

/-- What a call finds: the instances of a host, one instance, or an administration port. -/
inductive Found where
  | instances (instances : List Instance)
  | named (found : Instance)
  | adminPort (port : AdminPort)
  deriving DecidableEq

namespace Client

/-- The client of the service at its own port, with the limits that hold unless others are
asked. -/
def default : Client :=
  ⟨.value Protocol.port, .default⟩

/-- A browse towards a host, with the limits of the client. -/
def browse (client : Client) (t : Timeline) (host : String) : Browse :=
  .new t ⟨host, client.port⟩ client.limits

def lookup (client : Client) (t : Timeline) (host : String) (request : Request) :
    Outcome Datagram :=
  let (result, lookup) :=
    (Lookup.new t ⟨host, client.port⟩ request client.limits.response).run
  (result, lookup.timeline)

/-- Reads the instances in the answer of a host. -/
def readInstances (t : Timeline) (answer : Datagram) : Outcome (List Instance) :=
  let (notices, result) := Response.read answer.peer.host answer.data
  (result, t.note notices)

/-- The instances that a host answers a question with. -/
def instancesFor (client : Client) (t : Timeline) (host : String) (request : Request) :
    Outcome (List Instance) :=
  match client.lookup t host request with
  | (.error failure, t) => (.error failure, t)
  | (.ok answer, t) => readInstances t answer

def instances (client : Client) (t : Timeline) (host : String) : Outcome (List Instance) :=
  client.instancesFor t host .enumerate

/-- Two names are the same but for their case. -/
def sameName (a b : String) : Bool :=
  lower a = lower b

def select (host name : String) (instances : List Instance) : Except Failure Instance :=
  match instances.find? fun found => sameName found.name name with
  | some found => .ok found
  | none => .error (.notFound (.noInstance name host))

/-- One instance of a host, by its name. -/
def named (client : Client) (t : Timeline) (host name : String) : Outcome Instance :=
  let (result, t) := client.instancesFor t host (.named name)
  (result.bind (select host name), t)

/-- Reads an administration port. If there is none, it says whose. -/
def readAdminPort (host name : String) (answer : Datagram) : Except Failure AdminPort :=
  match Response.readAdminPort answer.data with
  | .error (.notFound reason) => .error (.notFound (.adminPortOf name host reason))
  | result => result

/-- The administration port of one instance of a host. -/
def adminPort (client : Client) (t : Timeline) (host name : String) : Outcome AdminPort :=
  let (result, t) := client.lookup t host (.adminPort name)
  (result.bind (readAdminPort host name), t)

/-- Finds what a request asks for. -/
def find (client : Client) (t : Timeline) (host : String) (request : Request) : Outcome Found :=
  match request with
  | .enumerate =>
    let (result, t) := client.instances t host
    (result.map .instances, t)
  | .named name =>
    let (result, t) := client.named t host name
    (result.map .named, t)
  | .adminPort name =>
    let (result, t) := client.adminPort t host name
    (result.map .adminPort, t)

end Client

/-! ## Several calls -/

/-- A call: who asks which host for what, and when it is to be cancelled. -/
structure Call where
  client : Client
  host : String
  request : Request
  cancelAfter : Option Span
  deriving DecidableEq, Repr

/-- What a call found, and when it ended. -/
structure Call.Result where
  found : Except Failure Found
  time : Instant

namespace Call

/-- Makes a call. A cancellation that comes after its end has no effect. -/
def make (call : Call) (t : Timeline) : Call.Result × Timeline :=
  let (found, t) := call.client.find (t.cancelAfter call.cancelAfter) call.host call.request
  (⟨found, t.now⟩, t.cancelAfter none)

/-- Makes calls one after another. -/
def inTurn (t : Timeline) : List Call → List Call.Result × Timeline
  | [] => ([], t)
  | call :: rest =>
    let (result, t) := call.make t
    let (results, t) := inTurn t rest
    (result :: results, t)

/-- An entry of the log comes before another, or in the same turn of the same instant. -/
def notAfter (a b : Entry) : Bool :=
  a.time < b.time || (a.time = b.time && a.turn ≤ b.turn)

/-- What two runs from the same beginning did, put together. -/
def join (a b : Timeline) : Timeline :=
  { a with
    now := max a.now b.now
    links := a.links ++ b.links
    sent := a.sent ++ b.sent
    log := a.log.merge b.log notAfter }

/-- Makes calls at once. -/
def atOnce (t : Timeline) : List Call → List Call.Result × Timeline
  | [] => ([], t)
  | call :: rest =>
    let (result, alone) := call.make t
    let (results, others) := atOnce t rest
    (result :: results, join alone others)

end Call

end SqlResolution
