import SqlResolution.Address.V4
import SqlResolution.Failure.Unfit
import SqlResolution.Frame
import SqlResolution.Network.Basic
import SqlResolution.Record
import SqlResolution.Text.Utf8

/-!
# Failures

Everything that can go wrong, by its cause. What is said about a failure is
written in one place only, in the `message` of its type, so that nothing else
depends on the wording.
-/

namespace SqlResolution

open SqlResolution.Text

/-- What the transport could not do. -/
inductive TransportFault where
  | unresolved (host : String) (error : Option OsError)
  | cannotOpen (socket : SocketName) (error : OsError)
  | notOpen (socket : SocketName)
  | sendFailed (socket : SocketName) (error : OsError)
  | receiveFailed (socket : SocketName) (error : OsError)
  deriving DecidableEq, Repr

def TransportFault.message : TransportFault → String
  | .unresolved host (some error) => s!"Unable to resolve {host}: {error.message}"
  | .unresolved host none => s!"Unable to resolve {host}"
  | .cannotOpen socket error =>
    s!"Unable to open UDP socket for {socket.place}: {error.message}"
  | .notOpen socket => s!"{socket.text} is not open"
  | .sendFailed socket error => s!"Sending to {socket.place} failed: {error.message}"
  | .receiveFailed socket error => s!"Receiving on {socket.text} failed: {error.message}"

/-- Why an answer cannot be read. -/
inductive MalformedResponse where
  | frame (fault : Frame.Fault)
  | adminEmpty
  | adminNoSize
  | adminVersion (version : UInt8)
  | notText (source : String) (fault : Utf8.Fault)
  | truncated (fault : Record.Truncated)
  deriving DecidableEq, Repr

def MalformedResponse.message : MalformedResponse → String
  | .frame fault => fault.message
  | .adminEmpty => "Empty DAC response datagram"
  | .adminNoSize => "DAC response is too short to contain a size field"
  | .adminVersion version =>
    s!"Expected DAC protocol version {Protocol.adminVersion}, found {version}"
  | .notText source fault => s!"Response from {source} is not valid UTF-8 text: {fault.message}"
  | .truncated fault => fault.message

/-- What an answer did not contain. -/
inductive NotFound where
  | noInstance (name : String) (host : String)
  | zeroAdminPort
  | noAdminPort
  | adminPortOf (name : String) (host : String) (reason : NotFound)
  deriving DecidableEq, Repr

def NotFound.message : NotFound → String
  | .noInstance name host => s!"Instance {quoted name} not found on {host}"
  | .zeroAdminPort => "DAC response reports no DAC port"
  | .noAdminPort => "Response does not contain a DAC endpoint"
  | .adminPortOf name host reason =>
    s!"No DAC endpoint for instance {quoted name} on {host}: {reason.message}"

/-- A step that its exchange does not allow at this time; the exchange is given as it is shown. -/
inductive Misuse where
  | alreadyStarted (exchange : String)
  | alreadyIterated (exchange : String)
  | notEntered (exchange : String)
  | alreadyRun (exchange : String)
  deriving DecidableEq, Repr

def Misuse.message : Misuse → String
  | .alreadyStarted exchange => s!"{exchange} has already been started"
  | .alreadyIterated exchange => s!"{exchange} cannot be restarted; issue a new browse request"
  | .notEntered exchange => s!"{exchange} must be entered with 'async with' before iterating"
  | .alreadyRun exchange => s!"{exchange} has already been run"

/-- A failure. -/
inductive Failure where
  | encoding (fault : Request.Fault)
  | tooLarge (fault : Frame.TooLarge)
  | transport (fault : TransportFault)
  | noResponse (socket : SocketName) (wait : String)
  | notFound (fault : NotFound)
  | malformed (fault : MalformedResponse)
  | misuse (fault : Misuse)
  | invalidValue (fault : InvalidValue)
  | wrongType (fault : WrongType)
  | blankSetting (fault : BlankSetting)
  | interfaceAddress (fault : Address.V4Fault)
  | unsupportedFamily
  | unknownKey (key : String)
  | unknownClass (name : String)
  | cancelled
  deriving DecidableEq, Repr

def Failure.message : Failure → String
  | .encoding fault => fault.message
  | .tooLarge fault => fault.message
  | .transport fault => fault.message
  | .noResponse socket wait => s!"No response from {socket.place} within {wait} seconds"
  | .notFound fault => fault.message
  | .malformed fault => fault.message
  | .misuse fault => fault.message
  | .invalidValue fault => fault.message
  | .wrongType fault => fault.message
  | .blankSetting fault => fault.message
  | .interfaceAddress fault => fault.message
  | .unsupportedFamily => ""
  | .unknownKey key => quoted key
  | .unknownClass name => s!"module '{Protocol.libraryName}' has no attribute '{name}'"
  | .cancelled => ""

/-- The event that a failure was a consequence of. -/
inductive Cause where
  | foreignCharacter
  | undecodable
  | resolver (error : OsError)
  | system (error : OsError)
  | notFound (fault : NotFound)
  deriving DecidableEq, Repr

/-- The cause of a failure of the transport. -/
def TransportFault.cause? : TransportFault → Option Cause
  | .unresolved _ error => error.map .resolver
  | .notOpen _ => none
  | .cannotOpen _ error | .sendFailed _ error | .receiveFailed _ error => some (.system error)

/-- The cause of a failure, if it has one. -/
def Failure.cause? : Failure → Option Cause
  | .encoding (.name (.notAscii _)) => some .foreignCharacter
  | .encoding .foreignName => some .undecodable
  | .transport fault => fault.cause?
  | .malformed (.notText _ _) => some .undecodable
  | .notFound (.adminPortOf _ _ reason) => some (.notFound reason)
  | _ => none

end SqlResolution
