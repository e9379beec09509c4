import SqlResolution.CommandLine.Invocation
import SqlResolution.Value.Class
import SqlResolution.Value.Json

/-!
# Carrying out an invocation

A command writes what it finds as JSON, and the log and its complaints beside it.
What was found before a failure stays written. Browsing goes from target to target,
each with a socket of its own, and the first failure ends it.

A failure makes the program end with a status of one and a complaint. If a traceback
is wanted, or if the run was cancelled, the failure itself is the outcome. Without a
level for the log nothing is carried out.
-/

namespace SqlResolution.CommandLine

/-- What became of a command: its status, what it wrote, what it complained of, and the timeline
after it. -/
structure Performance where
  status : Except Failure Int
  output : String
  complaint : String
  timeline : Timeline

/-- A value as it is written. -/
def written (value : Value) : String :=
  value.json .lines ++ "\n"

/-- The performance of a command that writes what it finds, if it finds it. -/
def Performance.ofOutcome {α : Type} (write : α → String) (outcome : Outcome α) : Performance :=
  match outcome with
  | (.ok found, t) => ⟨.ok 0, write found, "", t⟩
  | (.error failure, t) => ⟨.error failure, "", "", t⟩

/-! ## Browsing -/

/-- Adds addresses to others, one after another, each unless it is among them by then. -/
def addMissing (all : List String) : List String → List String
  | [] => all
  | address :: rest =>
    addMissing (if all.contains address then all else all ++ [address]) rest

/-- What is browsed: the addresses that were asked for, then, if wanted, the local broadcast
addresses that are not among them; and if that is nothing, the address of all hosts. -/
def targets (host : LocalNetworks) (addresses : List String) (allInterfaces : Bool) :
    Except Address.V4Fault (List String) := do
  let found ← if allInterfaces then host.broadcastAddresses false else .ok []
  let all := addMissing addresses found
  return if all.isEmpty then [Protocol.broadcastAddress] else all

def browseAll (client : Client) (t : Timeline) : List String → Performance
  | [] => ⟨.ok 0, "", "", t⟩
  | target :: rest =>
    let browsed := (client.browse (t.note [.browsing target]) target).run
    let output := String.join (browsed.instances.map fun found => written found.toValue)
    match browsed.failure with
    | some failure => ⟨.error failure, output, "", browsed.browse.timeline⟩
    | none =>
      let others := browseAll client browsed.browse.timeline rest
      { others with output := output ++ others.output }

/-! ## Commands -/

namespace Command

/-- The name under which the log knows a command. -/
def label : Option Command → String
  | none => "cmd_bare"
  | some (browse ..) => "cmd_browse"
  | some (host ..) => "cmd_host"
  | some (named ..) => "cmd_instance"
  | some (adminPort ..) => "cmd_dac"
  | some version => "cmd_version"

/-- Carries out a command, or complains that there is none. -/
def perform (client : Client) (t : Timeline) : Option Command → Performance
  | none => ⟨.ok 1, "", "A command is required\n", t⟩
  | some (browse addresses allInterfaces) =>
    match targets t.network.localNetworks addresses allInterfaces with
    | .ok found => browseAll client t found
    | .error fault => ⟨.error (.interfaceAddress fault), "", "", t⟩
  | some (host address) =>
    .ofOutcome (fun found => written (.list (found.map (·.toValue))))
      (client.instances t address)
  | some (named address name) =>
    .ofOutcome (fun found => written found.toValue) (client.named t address name)
  | some (adminPort address name) =>
    .ofOutcome (fun port => written port.toValue) (client.adminPort t address name)
  | some version => ⟨.ok 0, Protocol.programVersion ++ "\n", "", t⟩

end Command

/-! ## Invocations -/

/-- What became of an invocation: its status, or the failure that is its outcome; what it wrote;
what it wrote beside that; and the timeline after it. -/
structure Execution where
  status : Except Failure Int
  output : String
  errors : String
  timeline : Timeline

/-- A notice as a line of the log. -/
def logLine (notice : Notice) : String :=
  let source := if notice.isOfCommand then "root" else Protocol.libraryName
  s!"{notice.level.label}:{source}:{notice.message}\n"

/-- The lines of the notices that are important enough. -/
def logText (level : Level) (notices : List Notice) : String :=
  String.join ((notices.filter (level.rank ≤ ·.level.rank)).map logLine)

/-- How a failed command ends the program, and what is said about it. -/
def failureEnd (traceback : Bool) (failure : Failure) : Except Failure Int × String :=
  if failure = .cancelled then
    (.error failure, s!"{Grammar.programName}: Unhandled exception: {failure.message}\n")
  else if traceback then (.error failure, "")
  else (.ok 1, s!"{Grammar.programName}: error: {failure.message}\n")

namespace Invocation

/-- Carries out an invocation, with a log of that level and above. -/
def executeAt (invocation : Invocation) (level : Level) (t : Timeline) : Execution :=
  let label := Command.label invocation.command
  let t := t.note [.commandStarted label invocation.traceback]
  let performance := Command.perform invocation.client t invocation.command
  let log := logText level performance.timeline.notices ++ performance.complaint
  match performance.status with
  | .ok code =>
    let last := logText level [.commandEnded label code]
    ⟨.ok code, performance.output, log ++ last, performance.timeline⟩
  | .error failure =>
    let (status, last) := failureEnd invocation.traceback failure
    ⟨status, performance.output, log ++ last, performance.timeline⟩

def execute (invocation : Invocation) (t : Timeline) : Execution :=
  match invocation.level with
  | .value level => invocation.executeAt level t
  | .blank =>
    let (status, errors) := failureEnd invocation.traceback (.blankSetting .level)
    ⟨status, "", errors, t⟩

end Invocation

end SqlResolution.CommandLine
