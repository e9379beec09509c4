import SqlResolution.LocalNetworks
import SqlResolution.Socket

/-!
# The network

A network is known by what it does: the addresses it finds for a name, the errors
it raises when a socket is opened or used, and the replies that come when a
datagram is sent to a host. Routes, and the buffers in which a system keeps datagrams,
are left out: their effect is a reply that comes late or not at all.
-/

namespace SqlResolution

/-- What a host sends back. A datagram without a source comes from the host that was asked. -/
inductive Answer where
  | datagram (source : Option Peer) (data : List UInt8)
  | failure (error : OsError)
  | loss (error : Option OsError)
  deriving DecidableEq, Repr

/-- The event that an answer is for the socket that asked. -/
def Answer.event (asked : Peer) : Answer → Event
  | datagram source data => .datagram ⟨source.getD asked, data⟩
  | failure error => .failure error
  | loss error => .loss error

/-- An answer, and how long after the question it comes. -/
structure Reply where
  after : Span
  answer : Answer
  deriving DecidableEq, Repr

/-- What a name resolves to. -/
abbrev Resolution := Except OsError (List (Family × String))

/-- A network. Of an error that is given, every attempt at the step fails with it. -/
structure Network where
  localNetworks : LocalNetworks
  names : List (String × Resolution)
  socketError : Option OsError
  broadcastError : Option OsError
  bindError : Option OsError
  connectError : Option OsError
  sendError : Option OsError
  replies : List (String × List Reply)

/-- The system's side of a socket, as it can be seen from outside. -/
structure Link where
  family : Family
  broadcast : Bool
  bound : Option String
  isConnected : Bool
  isClosed : Bool
  deriving DecidableEq, Repr

/-- The outcome of opening a link. What was opened before a fault is closed again. -/
inductive Opening where
  | opened (link : Link)
  | failed (error : OsError) (closed : Option Link)
  deriving DecidableEq, Repr

namespace Network

/-- A network on which nothing answers, and only addresses have a meaning. -/
def silent (host : LocalNetworks) : Network :=
  ⟨host, [], none, none, none, none, none, []⟩

/-- The error of a name that nobody knows. -/
def unknownName : OsError :=
  ⟨-2, "Name or service not known"⟩

/-- Finds the addresses for a name. One that is not listed must be an address itself. -/
def resolve (network : Network) (host : String) : Resolution :=
  match network.names.lookup host with
  | some resolution => resolution
  | none =>
    match Address.read? host with
    | some (.v4 address) => .ok [(.inet, address.text)]
    | some (.v6 address) => .ok [(.inet6, address.text)]
    | none => .error unknownName

/-- The replies that a datagram to a host brings. -/
def repliesOf (network : Network) (host : String) : List Reply :=
  (network.replies.lookup host).getD []

/-- A datagram to an address has to be allowed to be a broadcast. -/
def needsBroadcast (network : Network) (destination : Destination) :
    Except Address.V4Fault Bool :=
  match destination.family with
  | .inet => network.localNetworks.isBroadcast destination.host
  | .inet6 => .ok false

/-- The address by which a socket takes datagrams on all of its host's addresses. -/
def anyAddress : Family → String
  | .inet => ""
  | .inet6 => "::"

/-- The address under which such a socket knows itself. -/
def ownAddress : Family → String
  | .inet => "0.0.0.0"
  | .inet6 => "::"

/-- The port that the system chooses for a socket. -/
def ownPort : Port := .value 50000

/-- Opens a link: a socket is made, allowed to broadcast if that is wanted, bound and connected;
the first error ends this. -/
def openLink (network : Network) (family : Family) (broadcast : Bool) : Opening :=
  match network.socketError with
  | some error => .failed error none
  | none =>
    match (if broadcast then network.broadcastError else none) with
    | some error => .failed error (some ⟨family, false, none, false, true⟩)
    | none =>
      match network.bindError with
      | some error => .failed error (some ⟨family, broadcast, none, false, true⟩)
      | none =>
        let bound := some (anyAddress family)
        match network.connectError with
        | some error => .failed error (some ⟨family, broadcast, bound, false, true⟩)
        | none => .opened ⟨family, broadcast, bound, true, false⟩

end Network

end SqlResolution
