import SqlResolution.Client
import SqlResolution.CommandLine.Reading
import SqlResolution.Number.Reading

/-!
# Invocations

An invocation is what a command line asks for: a command, or none, and the settings
under which it runs. It is put together from the uses of a reading, one after
another, so that of two values for a switch the later one holds, and the first
value that cannot be read ends it.
-/

namespace SqlResolution.CommandLine

open SqlResolution.Number

/-- A command with what it is to be done to. -/
inductive Command where
  | browse (addresses : List String) (allInterfaces : Bool)
  | host (address : String)
  | named (address name : String)
  | adminPort (address name : String)
  | version
  deriving DecidableEq, Repr

/-- What a command line asks for. -/
structure Invocation where
  traceback : Bool
  level : Setting Level
  client : Client
  command : Option Command
  deriving DecidableEq, Repr

/-- Why a command line leads to no invocation: it asks for help, or something is wrong with it. -/
inductive Refusal where
  | help (grammar : Grammar)
  | fault (grammar : Grammar) (fault : Fault)
  deriving DecidableEq, Repr

def faultText (grammar : Grammar) (fault : Fault) : String :=
  s!"{grammar.program}: error: {fault.message}"

/-! ## Commands -/

/-- What is known about a command so far. -/
structure Draft where
  addresses : List String
  allInterfaces : Bool
  address : String
  name : String
  deriving DecidableEq, Repr

namespace Draft

/-- The name of the instance that is meant if none is named. -/
def defaultInstance : String := "MSSQLSERVER"

def empty : Draft :=
  ⟨[], false, "", defaultInstance⟩

def apply (grammar : Grammar) (draft : Draft) : Use → Except Refusal Draft
  | .switch .help => .error (.help grammar)
  | .switch .allInterfaces => .ok { draft with allInterfaces := true }
  | .place .addresses words => .ok { draft with addresses := words }
  | .place .address (word :: _) => .ok { draft with address := word }
  | .place .instanceName (word :: _) => .ok { draft with name := word }
  | _ => .ok draft

def command (draft : Draft) : Verb → Command
  | .browse => .browse draft.addresses draft.allInterfaces
  | .host => .host draft.address
  | .named => .named draft.address draft.name
  | .adminPort => .adminPort draft.address draft.name
  | .version => .version

end Draft

/-- Takes note of all uses of a reading, and then of how it ended: the result, and the words left
over. -/
def conclude {σ : Type} (grammar : Grammar) (apply : σ → Use → Except Refusal σ) (start : σ)
    (reading : Reading) : Except Refusal (σ × List String) := do
  let last ← reading.uses.foldlM apply start
  match reading.ending with
  | .ok leftOver => .ok (last, leftOver)
  | .error fault => .error (.fault grammar fault)

/-- Reads a command from the words after it: the command, and the words left over. -/
def readCommand (verb : Verb) (words : List String) : Except Refusal (Command × List String) := do
  let grammar := Grammar.ofVerb verb
  let (draft, leftOver) ←
    conclude grammar (Draft.apply grammar) Draft.empty (Reading.ofTexts grammar words)
  return (draft.command verb, leftOver)

/-! ## Settings -/

/-- The levels that may be asked for, by their words. -/
def levelWords : List (String × Level) := [
  ("debug", .debug), ("info", .info), ("warning", .warning), ("error", .error),
  ("critical", .critical)]

namespace Invocation

def default : Invocation :=
  ⟨false, .value .warning, .default, none⟩

/-- Something is wrong with the switches or the command. -/
def fault {α : Type} (fault : Fault) : Except Refusal α :=
  .error (.fault Grammar.main fault)

def readLevel (value : String) : Except Refusal Level :=
  match levelWords.lookup value with
  | some level => .ok level
  | none => fault (.noLevel value (levelWords.map (·.1)))

/-- Reads the value of a switch as a whole number. -/
def readWhole (switch : Switch) (value : String) : Except Refusal Int :=
  match readInteger? value with
  | some n => .ok n
  | none => fault (.notWhole switch value)

/-- Reads the value of a switch as a time to wait. -/
def readTimeout (switch : Switch) (value : String) : Except Refusal Timeout :=
  match readReal? value with
  | some seconds => .ok ⟨seconds⟩
  | none => fault (.notReal switch value)

def setLimits (invocation : Invocation) (change : Limits → Limits) : Invocation :=
  { invocation with
    client := { invocation.client with limits := change invocation.client.limits } }

/-- Takes note of what a switch is set to. -/
def applySetting (invocation : Invocation) (switch : Switch) (setting : Setting String) :
    Except Refusal Invocation :=
  match switch with
  | .logLevel => do
    let level ← setting.readBy readLevel
    return { invocation with level }
  | .port => do
    let port ← setting.readBy (readWhole switch)
    return { invocation with client := { invocation.client with port } }
  | .waitTime => do
    let response ← setting.readBy (readTimeout switch)
    return invocation.setLimits fun limits => { limits with response }
  | .inactivityTimeout => do
    let inactivity ← setting.readBy (readTimeout switch)
    return invocation.setLimits fun limits => { limits with inactivity }
  | .maxWaitTime => do
    let total ← setting.readBy (readTimeout switch)
    return invocation.setLimits fun limits => { limits with total }
  | .help | .traceback | .allInterfaces => .ok invocation

/-- Takes note of a use. The words that a command left over are kept beside the invocation. -/
def apply (state : Invocation × List String) : Use → Except Refusal (Invocation × List String)
  | .switch .help => .error (.help Grammar.main)
  | .switch .traceback => .ok ({ state.1 with traceback := true }, state.2)
  | .setting switch setting => do return (← state.1.applySetting switch setting, state.2)
  | .place .command (word :: words) =>
    match Verb.ofWord? word with
    | none => fault (.noCommand word)
    | some verb => do
      let (command, leftOver) ← readCommand verb words
      return ({ state.1 with command := some command }, leftOver)
  | _ => .ok state

/-- Reads a command line. Words left over, by the program or by its command, are a fault. -/
def ofTexts (texts : List String) : Except Refusal Invocation := do
  let ((invocation, ofCommand), ofMain) ←
    conclude Grammar.main apply (default, []) (Reading.ofTexts Grammar.main texts)
  match ofMain ++ ofCommand with
  | [] => .ok invocation
  | leftOver => fault (.unrecognized leftOver)

end Invocation

end SqlResolution.CommandLine
