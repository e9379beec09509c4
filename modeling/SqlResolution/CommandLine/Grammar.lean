import SqlResolution.Text.Quoted

/-!
# The grammar of the command line

A command line has switches, which begin with a hyphen and may take a value, and
places, which are filled in order by the words in between. The program has switches
of its own and one place, for a command and all that follows it; each command has
switches and places of its own.

Descriptions of switches and places, which only the text of help shows, are not kept.
-/

namespace SqlResolution.CommandLine

open SqlResolution.Text

/-- The switches of the program and of its commands. -/
inductive Switch where
  | help
  | traceback
  | logLevel
  | port
  | waitTime
  | inactivityTimeout
  | maxWaitTime
  | allInterfaces
  deriving DecidableEq, Repr

namespace Switch

def spellings : Switch → List String
  | help => ["-h", "--help"]
  | traceback => ["--traceback", "--tb"]
  | logLevel => ["--log-level"]
  | port => ["-p", "--port"]
  | waitTime => ["--wait-time"]
  | inactivityTimeout => ["--inactivity-timeout"]
  | maxWaitTime => ["--max-wait-time"]
  | allInterfaces => ["-a", "--all-interfaces"]

def takesValue : Switch → Bool
  | help | traceback | allInterfaces => false
  | logLevel | port | waitTime | inactivityTimeout | maxWaitTime => true

def label (switch : Switch) : String :=
  "/".intercalate switch.spellings

end Switch

inductive Verb where
  | browse
  | host
  | named
  | adminPort
  | version
  deriving DecidableEq, Repr

namespace Verb

/-- All commands, in the order in which they are offered. -/
def all : List Verb :=
  [browse, host, named, adminPort, version]

def word : Verb → String
  | browse => "browse"
  | host => "host"
  | named => "instance"
  | adminPort => "dac"
  | version => "version"

def ofWord? (word : String) : Option Verb :=
  all.find? (·.word = word)

end Verb

/-- How many words fill a place. A command is one word and whatever comes after it. -/
inductive Arity where
  | one
  | optional
  | many
  | command
  deriving DecidableEq, Repr

/-- The places of the program and of its commands. -/
inductive Place where
  | command
  | addresses
  | address
  | instanceName
  deriving DecidableEq, Repr

namespace Place

def arity : Place → Arity
  | command => .command
  | addresses => .many
  | address => .one
  | instanceName => .optional

def label : Place → String
  | command => "\x7b" ++ ",".intercalate (Verb.all.map (·.word)) ++ "\x7d"
  | addresses => "addresses"
  | address => "address"
  | instanceName => "instance_name"

end Place

/-- The switches and places of the program or of a command, and its name in messages. -/
structure Grammar where
  program : String
  switches : List Switch
  places : List Place
  deriving DecidableEq, Repr

namespace Grammar

def programName : String := "ssrp"

def main : Grammar where
  program := programName
  switches :=
    [.help, .traceback, .logLevel, .port, .waitTime, .inactivityTimeout, .maxWaitTime]
  places := [.command]

def ofVerb (verb : Verb) : Grammar where
  program := s!"{programName} {verb.word}"
  switches := if verb = .browse then [.help, .allInterfaces] else [.help]
  places :=
    match verb with
    | .browse => [.addresses]
    | .host => [.address]
    | .named | .adminPort => [.address, .instanceName]
    | .version => []

/-- All spellings of switches, in order, each with its switch. -/
def spellings (g : Grammar) : List (String × Switch) :=
  g.switches.flatMap fun switch => switch.spellings.map (·, switch)

def switch? (g : Grammar) (spelling : String) : Option Switch :=
  g.spellings.lookup spelling

end Grammar

/-! ## Faults -/

/-- What is wrong with a command line. -/
inductive Fault where
  | ambiguous (word : String) (candidates : List String)
  | valueMissing (switch : Switch)
  | valueIgnored (switch : Switch) (value : String)
  | notWhole (switch : Switch) (value : String)
  | notReal (switch : Switch) (value : String)
  | noLevel (value : String) (choices : List String)
  | noCommand (word : String)
  | unfilled (places : List Place)
  | unrecognized (words : List String)
  deriving DecidableEq, Repr

namespace Fault

def listed (texts : List String) : String :=
  ", ".intercalate texts

/-- What is said about a value that is none of the choices. -/
def choiceText (value : String) (choices : List String) : String :=
  s!"invalid choice: {quoted value} (choose from {listed (choices.map quoted)})"

def message : Fault → String
  | ambiguous word candidates =>
    s!"ambiguous option: {word} could match {listed candidates}"
  | valueMissing switch => s!"argument {switch.label}: expected one argument"
  | valueIgnored switch value =>
    s!"argument {switch.label}: ignored explicit argument {quoted value}"
  | notWhole switch value => s!"argument {switch.label}: invalid int value: {quoted value}"
  | notReal switch value => s!"argument {switch.label}: invalid float value: {quoted value}"
  | noLevel value choices => s!"argument {Switch.logLevel.label}: {choiceText value choices}"
  | noCommand word =>
    s!"argument {Place.command.label}: {choiceText word (Verb.all.map (·.word))}"
  | unfilled places =>
    "the following arguments are required: " ++ listed (places.map (·.label))
  | unrecognized words => "unrecognized arguments: " ++ " ".intercalate words

end Fault

end SqlResolution.CommandLine
