import SqlResolution.Address
import SqlResolution.Failure

/-!
# The networks of this host

The interfaces of the host carry IPv4 addresses, each perhaps with a broadcast
address for its network. The broadcast addresses are listed once each, best
first: those of the interface that leads to the default gateway, then the others,
then those that begin with `172.`, which are mostly those of containers, and last
those of the loopback interface, if wanted at all. Equal ranks go by the text of
the address and then by the name of the interface.

Entries are taken in the order of the interfaces, and the first entry with a
broadcast address speaks for it. An entry whose own address is no IPv4 address
makes the whole list impossible.
-/

namespace SqlResolution

/-- An IPv4 address of an interface, and the broadcast address of its network. -/
structure InterfaceAddress where
  address : Option String
  broadcast : Option String
  deriving DecidableEq, Repr

structure Interface where
  name : String
  addresses : List InterfaceAddress
  deriving DecidableEq, Repr

/-- The way out of the local networks: the address of the gateway and the interface to it. -/
structure Gateway where
  address : String
  interface : String
  deriving DecidableEq, Repr

structure LocalNetworks where
  interfaces : List Interface
  gateway4 : Option Gateway
  gateway6 : Option Gateway
  deriving DecidableEq, Repr

/-- A broadcast address, the interface it is on, and how much it is preferred: less is better. -/
structure BroadcastNetwork where
  rank : Nat
  broadcast : String
  interface : String
  deriving DecidableEq, Repr

/-- Better rank first, then the smaller address, then the smaller name. -/
def BroadcastNetwork.precedes (a b : BroadcastNetwork) : Bool :=
  if a.rank ≠ b.rank then a.rank < b.rank
  else if a.broadcast ≠ b.broadcast then a.broadcast < b.broadcast
  else !(b.interface < a.interface)

namespace LocalNetworks

def inetNumber : Int := 2

def inet6Number : Int := 10

/-- The default gateway of a family, given by its number. -/
def defaultGateway (host : LocalNetworks) (family : Int) : Except Failure (Option Gateway) :=
  if family = inetNumber then .ok host.gateway4
  else if family = inet6Number then .ok host.gateway6
  else .error .unsupportedFamily

/-- An entry belongs to the loopback interface: its own address says so. -/
def isLoopback (entry : InterfaceAddress) : Except Address.V4Fault Bool :=
  match entry.address with
  | none => .ok false
  | some text => (Address.V4.read text).map Address.V4.isLoopback

/-- How much a broadcast address is preferred. -/
def rankOf (gateway : Option String) (interface broadcast : String) (loopback : Bool) : Nat :=
  if gateway = some interface then 0
  else if loopback then 3
  else if "172.".toList.isPrefixOf broadcast.toList then 2
  else 1

/-- Goes through the entries in order; `found` holds the networks so far. -/
def scan (gateway : Option String) (includeLoopback : Bool) (found : List BroadcastNetwork) :
    List (String × InterfaceAddress) → Except Address.V4Fault (List BroadcastNetwork)
  | [] => .ok found
  | (interface, entry) :: rest => do
    let loopback ← isLoopback entry
    if loopback && !includeLoopback then scan gateway includeLoopback found rest
    else
      match entry.broadcast with
      | none => scan gateway includeLoopback found rest
      | some broadcast =>
        if found.any (·.broadcast = broadcast) then scan gateway includeLoopback found rest
        else
          let network := ⟨rankOf gateway interface broadcast loopback, broadcast, interface⟩
          scan gateway includeLoopback (found ++ [network]) rest

/-- All entries, each with the name of its interface. -/
def entries (host : LocalNetworks) : List (String × InterfaceAddress) :=
  host.interfaces.flatMap fun interface => interface.addresses.map (interface.name, ·)

/-- The networks with a broadcast address, best first. -/
def broadcastNetworks (host : LocalNetworks) (includeLoopback : Bool) :
    Except Address.V4Fault (List BroadcastNetwork) :=
  (scan (host.gateway4.map (·.interface)) includeLoopback [] host.entries).map
    (·.mergeSort BroadcastNetwork.precedes)

/-- The broadcast addresses, best first. -/
def broadcastAddresses (host : LocalNetworks) (includeLoopback : Bool) :
    Except Address.V4Fault (List String) :=
  (host.broadcastNetworks includeLoopback).map (·.map (·.broadcast))

/-- A text is the address of all hosts, or the broadcast address of a network of this host. -/
def isBroadcast (host : LocalNetworks) (text : String) : Except Address.V4Fault Bool :=
  match Address.read? text with
  | some (.v4 address) =>
    if address = Address.V4.limitedBroadcast then .ok true
    else (host.broadcastAddresses true).map (·.contains text)
  | _ => .ok false

end LocalNetworks

end SqlResolution
