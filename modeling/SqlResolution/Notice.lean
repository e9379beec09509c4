import SqlResolution.Failure
import SqlResolution.State

/-!
# Notices

What happens along the way is told to a log: each notice has a level, and says
what happened. A notice is data; its wording is in `message` alone.
-/

namespace SqlResolution

open SqlResolution.Text

/-- How important a notice is. -/
inductive Level where
  | debug
  | info
  | warning
  | error
  | critical
  deriving DecidableEq, Repr

def Level.rank : Level → Nat
  | debug => 10
  | info => 20
  | warning => 30
  | error => 40
  | critical => 50

def Level.label : Level → String
  | debug => "DEBUG"
  | info => "INFO"
  | warning => "WARNING"
  | error => "ERROR"
  | critical => "CRITICAL"

/-- An entry of the log. -/
inductive Notice where
  | unnamedRecord (source : String) (record : Record)
  | invalidPort (value name source : String)
  | invalidVia (value name source : String)
  | connected (socket : SocketName)
  | opened (socket : SocketName) (own : Destination) (broadcast : Bool)
  | sending (socket : SocketName) (destination : Destination) (data : List UInt8)
  | received (socket : SocketName) (peer : Peer) (data : List UInt8)
  | queueFull (socket : SocketName) (peer : Peer)
  | refused (socket : SocketName) (error : OsError)
  | transportError (socket : SocketName) (error : OsError)
  | connectionLost (socket : SocketName) (error : Option OsError)
  | waitExhausted (socket : SocketName) (wait : String)
  | stateChanged (exchange : String) (state : State)
  | malformedSkipped (peer : Peer) (fault : MalformedResponse)
  | browseEnded (exchange : String) (datagrams instances : Nat)
  | commandStarted (command : String) (traceback : Bool)
  | commandEnded (command : String) (code : Int)
  | browsing (target : String)

namespace Notice

def level : Notice → Level
  | unnamedRecord .. | invalidPort .. | invalidVia .. | queueFull .. | malformedSkipped .. =>
    .warning
  | refused .. | transportError .. => .info
  | _ => .debug

/-- The notice is about the command line, not about an exchange. -/
def isOfCommand : Notice → Bool
  | commandStarted .. | commandEnded .. | browsing .. => true
  | _ => false

/-- How yes and no are shown. -/
def flagText (flag : Bool) : String :=
  if flag then "True" else "False"

def message : Notice → String
  | unnamedRecord source record =>
    s!"Dropping SSRP record from {source} with no InstanceName: {record.text}"
  | invalidPort value name source =>
    s!"Ignoring invalid tcp port {quoted value} for instance {quoted name} from {source}"
  | invalidVia value name source =>
    s!"Ignoring invalid via parameters {quoted value} for instance {quoted name} from {source}"
  | connected socket => s!"Connection made: {socket.text}"
  | opened socket own broadcast =>
    s!"Opened {socket.text} on {own.text}, broadcast={flagText broadcast}"
  | sending socket destination data =>
    s!"Sending request via {socket.text} to {destination.text}: {quotedBytes data}"
  | received socket peer data =>
    s!"Received datagram on {socket.text} from {peer.text}: {quotedBytes data}"
  | queueFull socket peer =>
    s!"Queue full, dropping datagram from {peer.text} on {socket.text}"
  | refused socket error => s!"Ignoring {error.message} on {socket.text}"
  | transportError socket error =>
    s!"Error received from transport on {socket.text}: {error.message}"
  | connectionLost socket error =>
    let reason := (error.map OsError.message).getD "None"
    s!"Connection to transport lost on {socket.text}, exc={reason}"
  | waitExhausted socket wait => s!"Maximum wait time of {wait} seconds reached on {socket.text}"
  | stateChanged exchange state => s!"{exchange}: -> {state.label}"
  | malformedSkipped peer fault =>
    s!"Skipping malformed SSRP response from {peer.text}: {fault.message}"
  | browseEnded exchange datagrams instances =>
    s!"{exchange}: received {datagrams} datagrams, yielded {instances} instances"
  | commandStarted command traceback =>
    s!"Running command {command}, tb = {flagText traceback}"
  | commandEnded command code => s!"Command {command} returned {code}"
  | browsing target => s!"Browsing {target}"

end Notice

end SqlResolution
