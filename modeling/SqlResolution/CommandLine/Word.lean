import SqlResolution.CommandLine.Grammar
import SqlResolution.Text.Digit

/-!
# The words of a command line

A word that begins with a hyphen is a switch, unless it is a hyphen alone, a
negative number, or has a space in it without being the beginning of a switch. Long
spellings begin with two hyphens and may be cut short as long as only one spelling
fits; a value may follow after an equals sign. Short spellings have one letter, and
what follows it in the word is a value or more letters.

Two hyphens alone separate: every later word is an argument.
-/

namespace SqlResolution.CommandLine

open SqlResolution.Text

/-- What a word is. The text of the word comes first. -/
inductive Word where
  | argument (text : String)
  | separator
  | short (text : String) (switch : Switch) (tail : List Char)
  | long (text : String) (switch : Switch) (value : Option String)
  | unknown (text : String)
  deriving DecidableEq, Repr

namespace Word

/-- What separates switches from arguments. -/
def separatorText : String := "--"

def text : Word → String
  | argument text | short text _ _ | long text _ _ | unknown text => text
  | separator => separatorText

/-- A word that is written as a switch. -/
def isSwitch : Word → Bool
  | short .. | long .. | unknown _ => true
  | argument _ | separator => false

def isSeparator (word : Word) : Bool :=
  word = separator

/-- A decimal digit of any script. -/
def isDigit (c : Char) : Bool :=
  (digitValue? c).isSome

/-- One decimal digit or more. A line feed may end the text. -/
def isDigits (cs : List Char) : Bool :=
  match cs.dropWhile isDigit with
  | [] => !cs.isEmpty
  | ['\n'] => 1 < cs.length
  | _ => false

/-- A negative number: a hyphen, and digits with or without a point, behind which there must be
one. -/
def isNegative : List Char → Bool
  | '-' :: cs =>
    isDigits cs ||
      match cs.dropWhile isDigit with
      | '.' :: fraction => isDigits fraction
      | _ => false
  | _ => false

/-- The part of a text before its first equals sign, and the part behind it. -/
def splitAtEquals (cs : List Char) : String × Option String :=
  let name := String.ofList (cs.takeWhile (· ≠ '='))
  match cs.dropWhile (· ≠ '=') with
  | [] => (name, none)
  | _ :: value => (name, some (String.ofList value))

/-- The long spellings that begin with a text. -/
def completions (g : Grammar) (text : String) : List (String × Switch) :=
  g.spellings.filter fun (spelling, _) => text.toList.isPrefixOf spelling.toList

/-- A word that is no switch of the grammar. -/
def other (text : String) : Word :=
  if isNegative text.toList || text.toList.contains ' ' then argument text else unknown text

/-- Reads a word that begins with two hyphens. -/
def ofLong (g : Grammar) (text : String) : Except Fault Word :=
  let (name, value) := splitAtEquals text.toList
  match g.switch? name with
  | some switch => .ok (long text switch value)
  | none =>
    match completions g name with
    | [] => .ok (other text)
    | [(_, switch)] => .ok (long text switch value)
    | candidates => .error (.ambiguous text (candidates.map (·.1)))

/-- Reads a word that begins with a hyphen and a letter. -/
def ofShort (g : Grammar) (text : String) (letter : Char) (tail : List Char) : Word :=
  match g.switch? (String.ofList ['-', letter]) with
  | some switch => short text switch tail
  | none => other text

def ofText (g : Grammar) (text : String) : Except Fault Word :=
  match text.toList with
  | '-' :: '-' :: _ => ofLong g text
  | '-' :: letter :: tail => .ok (ofShort g text letter tail)
  | _ => .ok (argument text)

def ofTexts (g : Grammar) : List String → Except Fault (List Word)
  | [] => .ok []
  | text :: rest =>
    if text = separatorText then .ok (separator :: rest.map argument)
    else do return (← ofText g text) :: (← ofTexts g rest)

end Word

end SqlResolution.CommandLine
