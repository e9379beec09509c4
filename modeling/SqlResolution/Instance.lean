import SqlResolution.Address

/-!
# Instances

An instance is a database server with a name of its own on a host. Its entry in
an answer tells by which ways it is reached, each of which may be missing.
-/

namespace SqlResolution

/-- A network card and the port on it. -/
structure ViaAddress where
  nic : String
  port : String
  deriving DecidableEq, Repr

/-- The way over the Virtual Interface Architecture: a machine and its cards. -/
structure Via where
  machine : String
  addresses : List ViaAddress
  deriving DecidableEq, Repr

/-- The way over Banyan VINES: a name of three parts. -/
structure Vines where
  item : String
  group : String
  organisation : String
  deriving DecidableEq, Repr

/-- An instance as an answer describes it. The address is that of the host that answered, not
anything the answer claims. -/
structure Instance where
  address : Address
  serverName : String
  name : String
  isClustered : Bool
  version : String
  tcp : Option Nat
  pipe : Option String
  via : Option Via
  rpc : Option String
  spx : Option String
  appleTalk : Option String
  vines : Option Vines
  deriving DecidableEq

/-- The port on which an instance takes its administrator's connection. -/
structure AdminPort where
  port : Nat
  deriving DecidableEq, Repr

end SqlResolution
