import SqlResolution.CommandLine.Execution

/-!
# The program

The program reads its command line, carries out what it asks for, and writes the
result. It runs on a network that stays silent: names other than addresses are
unknown, and a question brings no answer.
-/

namespace SqlResolution.CommandLine

def Switch.usage (switch : Switch) : String :=
  let spelling := switch.spellings.headD ""
  if switch.takesValue then s!"[{spelling} VALUE]" else s!"[{spelling}]"

def Place.usage (place : Place) : String :=
  match place.arity with
  | .one => place.label
  | .optional => s!"[{place.label}]"
  | .many => s!"[{place.label} ...]"
  | .command => s!"[{place.label} ...]"

/-- The usage line of the program or of a command. -/
def Grammar.usage (g : Grammar) : String :=
  " ".intercalate
    (["usage:", g.program] ++ g.switches.map (·.usage) ++ g.places.map (·.usage)) ++ "\n"

end SqlResolution.CommandLine

open SqlResolution
open SqlResolution.CommandLine

/-- Writes what an execution wrote, and returns its status. A failure that is the outcome is
named last. -/
def report (execution : Execution) : IO UInt32 := do
  IO.print execution.output
  IO.eprint execution.errors
  match execution.status with
  | .ok code => return code.toNat.toUInt32
  | .error failure =>
    IO.eprintln failure.message
    return 1

def main (arguments : List String) : IO UInt32 := do
  match Invocation.ofTexts arguments with
  | .ok invocation => report (invocation.execute (.new (.silent ⟨[], none, none⟩)))
  | .error (.help grammar) =>
    IO.print grammar.usage
    return 0
  | .error (.fault grammar fault) =>
    IO.eprint grammar.usage
    IO.eprintln (faultText grammar fault)
    return 2
