import SqlResolution.Setting
import SqlResolution.Text.Quoted

/-!
# Names on the network

The nouns that sockets and messages share: address families, the errors of the
operating system, the ends of a datagram, and the name a socket goes by.
-/

namespace SqlResolution

open SqlResolution.Text

inductive Family where
  | inet
  | inet6
  deriving DecidableEq, Repr

/-- An error of the operating system: its number and its text. -/
structure OsError where
  code : Int
  text : String
  deriving DecidableEq, Repr

/-- The three kinds of error that are told apart. -/
inductive OsError.Kind where
  | refused
  | denied
  | other
  deriving DecidableEq, Repr

/-- The kind of an error, by its number. -/
def OsError.kind (error : OsError) : OsError.Kind :=
  if error.code = 111 then .refused
  else if error.code = 13 then .denied
  else .other

/-- Another host said that nobody listens on the port. -/
def OsError.isRefused (error : OsError) : Bool :=
  error.kind = .refused

def OsError.message (error : OsError) : String :=
  s!"[Errno {error.code}] {error.text}"

/-- A port, as it was asked for. Whether a host can have such a port is for the system to find
out. -/
abbrev Port := Setting Int

def Port.text (port : Port) : String :=
  port.textBy toString

structure Peer where
  host : String
  port : Port
  deriving DecidableEq, Repr

def Peer.text (peer : Peer) : String :=
  s!"({quoted peer.host}, {peer.port.text})"

/-- A datagram that came in. -/
structure Datagram where
  peer : Peer
  data : List UInt8
  deriving DecidableEq, Repr

/-- Where datagrams go: an address that a name was resolved to, and a port. Addresses of the
newer family carry two more numbers, which are zero. -/
structure Destination where
  family : Family
  host : String
  port : Port
  deriving DecidableEq, Repr

/-- The sender of an answer that comes from the destination itself. -/
def Destination.peer (destination : Destination) : Peer :=
  ⟨destination.host, destination.port⟩

/-- The numbers after the host. -/
def Destination.numbers (destination : Destination) : List Port :=
  match destination.family with
  | .inet => [destination.port]
  | .inet6 => [destination.port, .value 0, .value 0]

def Destination.text (destination : Destination) : String :=
  let numbers := destination.numbers.map fun number => s!", {number.text}"
  s!"({quoted destination.host}{String.join numbers})"

/-- The name of a socket: the host and port it was made for. -/
structure SocketName where
  host : String
  port : Port
  deriving DecidableEq, Repr

/-- Host and port with a colon between them. -/
def SocketName.place (name : SocketName) : String :=
  s!"{name.host}:{name.port.text}"

def SocketName.text (name : SocketName) : String :=
  s!"SsrpSocket({name.place})"

end SqlResolution
