import SqlResolution.CommandLine.Word
import SqlResolution.Setting

/-!
# Reading a command line

The words are gone through from left to right. A switch takes the next word for its
value if it needs one and none is attached to it. Arguments fill as many places as
they can, and a place that was filled, be it by nothing, is not filled again; what
fits nowhere is left over. At the end every place that needs a word must have one.

A switch is used with a blank setting if the value attached to it is what separates
switches from arguments, and nothing else.

Reading only arranges: it says which switches and places are used, in order, and how
the line ends. A fault ends the reading, and what was used before it still counts, so
that a call for help wins over a later fault.
-/

namespace SqlResolution.CommandLine

/-- A switch that needs no value, a switch with what it is set to, or a place with the words that
fill it. -/
inductive Use where
  | switch (switch : Switch)
  | setting (switch : Switch) (setting : Setting String)
  | place (place : Place) (words : List String)
  deriving DecidableEq, Repr

/-- What was used, in order, and the words that are left over at the end, or the fault there. -/
structure Reading where
  uses : List Use
  ending : Except Fault (List String)

namespace Reading

/-- The reading of a line that begins with these uses and these words left over. -/
def after (uses : List Use) (leftOver : List String) (rest : Reading) : Reading :=
  ⟨uses ++ rest.uses, rest.ending.map (leftOver ++ ·)⟩

/-! ## Places -/

/-- How many of the words fill a place; the separators around an argument go with it. -/
def fit (arity : Arity) (words : List Word) : Option Nat :=
  let arguments := words.dropWhile Word.isSeparator
  let lead := words.length - arguments.length
  match arity, arguments with
  | .many, _ => some (words.takeWhile (!·.isSwitch)).length
  | .command, .argument _ :: _ => some words.length
  | _, .argument _ :: rest => some (lead + 1 + (rest.takeWhile Word.isSeparator).length)
  | .optional, _ => some lead
  | _, _ => none

/-- The words for a place. A command keeps its separator, which its own grammar will read. -/
def valuesFor (place : Place) (words : List Word) : List String :=
  let texts := words.map Word.text
  if place = .command then texts else texts.erase Word.separatorText

/-- Fills places, as many as possible: their uses, the places not filled, and the words not
used. -/
def fill : List Place → List Word → List Use × List Place × List Word
  | [], words => ([], [], words)
  | place :: places, words =>
    match fit place.arity words with
    | none => ([], place :: places, words)
    | some count =>
      let (uses, left, rest) := fill places (words.drop count)
      (.place place (valuesFor place (words.take count)) :: uses, left, rest)

/-- The places that need a word. -/
def unfilled (places : List Place) : List Place :=
  places.filter (·.arity = .one)

/-- Reads words without a switch among them, at the end of the line. -/
def finish (places : List Place) (words : List Word) : Reading :=
  let (uses, left, rest) := fill places words
  match unfilled left with
  | [] => ⟨uses, .ok (rest.map Word.text)⟩
  | missing => ⟨uses, .error (.unfilled missing)⟩

/-! ## Switches -/

/-- What a switch uses: its uses, the words left over, and how many of the next words it takes. -/
abbrev Taken := Except Fault (List Use × List String × Nat)

/-- A switch with nothing attached. -/
def takeBare (switch : Switch) (next : List Word) : Taken :=
  if switch.takesValue then
    match next with
    | .argument value :: _ => .ok ([.setting switch (.value value)], [], 1)
    | _ => .error (.valueMissing switch)
  else .ok ([.switch switch], [], 0)

/-- What a switch is set to by the value attached to it. -/
def attached (value : String) : Setting String :=
  if value = Word.separatorText then .blank else .value value

/-- A switch with a value attached to it. -/
def takeAttached (switch : Switch) (value : String) : Taken :=
  if switch.takesValue then .ok ([.setting switch (attached value)], [], 0)
  else .error (.valueIgnored switch value)

/-- A switch in front of others. -/
def takeBefore (switch : Switch) (others : Taken) : Taken :=
  others.map fun (uses, leftOver, count) => (.switch switch :: uses, leftOver, count)

/-- A switch of one letter with what follows it: a value, or the letters of more switches. Letters
that are neither are a value that the switch does not take. -/
def takeLetters (g : Grammar) (switch : Switch) (next : List Word) : List Char → Taken
  | [] => takeBare switch next
  | letter :: tail =>
    if switch.takesValue then takeAttached switch (String.ofList (letter :: tail))
    else
      match g.switch? (String.ofList ['-', letter]) with
      | some other => takeBefore switch (takeLetters g other next tail)
      | none => .error (.valueIgnored switch (String.ofList (letter :: tail)))

/-- A switch of one letter with the rest of its word, in which an equals sign may come first. -/
def takeShort (g : Grammar) (switch : Switch) (next : List Word) : List Char → Taken
  | ['='] => takeAttached switch ""
  | '=' :: tail => takeLetters g switch next tail
  | tail => takeLetters g switch next tail

/-- What a word that is written as a switch uses. -/
def take (g : Grammar) (word : Word) (next : List Word) : Taken :=
  match word with
  | .short _ switch tail => takeShort g switch next tail
  | .long _ switch none => takeBare switch next
  | .long _ switch (some value) => takeAttached switch value
  | .unknown text => .ok ([], [text], 0)
  | .argument text => .ok ([], [text], 0)
  | .separator => .ok ([], [Word.separatorText], 0)

/-! ## Lines -/

theorem length_dropWhile_le {α : Type} (p : α → Bool) (items : List α) :
    (items.dropWhile p).length ≤ items.length :=
  (List.dropWhile_sublist p).length_le

/-- Reads the words of a line, with these places to fill. -/
def arrange (g : Grammar) (places : List Place) (words : List Word) : Reading :=
  match words with
  | [] => finish places []
  | word :: next =>
    if word.isSwitch then
      match take g word next with
      | .error fault => ⟨[], .error fault⟩
      | .ok (uses, leftOver, count) =>
        (arrange g places (next.drop count)).after uses leftOver
    else if (word :: next).any Word.isSwitch then
      let filled := fill places (word :: next)
      if filled.2.2.length < (word :: next).length then
        (arrange g filled.2.1 filled.2.2).after filled.1 []
      else
        let skipped := (word :: next).takeWhile (!·.isSwitch)
        (arrange g filled.2.1 (next.dropWhile (!·.isSwitch))).after filled.1
          (skipped.map Word.text)
    else finish places (word :: next)
termination_by words.length
decreasing_by
  · simp only [List.length_drop, List.length_cons]
    omega
  · assumption
  · exact Nat.lt_succ_of_le (length_dropWhile_le _ _)

def ofTexts (g : Grammar) (texts : List String) : Reading :=
  match Word.ofTexts g texts with
  | .error fault => ⟨[], .error fault⟩
  | .ok words => arrange g g.places words

end Reading

end SqlResolution.CommandLine
