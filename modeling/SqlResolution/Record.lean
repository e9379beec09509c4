import SqlResolution.KeyTable
import SqlResolution.Text.Quoted
import SqlResolution.Text.Split

/-!
# Records

The text of an answer is a sequence of tokens with semicolons between them. A key
is followed by its values, three for `bv` and one for every other key; an empty
token where a key could stand ends the record. The last record need not be
ended, and ends without keys before them mean nothing.

Within a record the first of several values of a key counts. A text that stops
before all values of a key is refused as a whole.
-/

namespace SqlResolution

open SqlResolution.Text

/-- The keys of one instance with their values. -/
abbrev Record := KeyTable (List String)

namespace Record

/-- The key with three values. -/
def tripleKey : String := "bv"

/-- How many values follow a key. -/
def valueCount (key : String) : Nat :=
  if lower key = tripleKey then 3 else 1

/-- A text that stops before all values of this key. -/
structure Truncated where
  key : String
  deriving DecidableEq, Repr

def Truncated.message (fault : Truncated) : String :=
  s!"Truncated record: key {quoted fault.key} is missing its value"

/-- Gives a key its values, unless it has some already. -/
def offer (record : Record) (key : String) (values : List String) : Record :=
  if record.contains key then record else record.push key values

/-- The records of the rest of a text, the first of which is `current` so far. -/
def splitTokens (current : Record) : List String → Except Truncated (List Record)
  | [] => .ok (if current.isEmpty then [] else [current])
  | key :: rest =>
    if key = "" then
      if current.isEmpty then splitTokens .empty rest
      else (splitTokens .empty rest).map (current :: ·)
    else if valueCount key = 3 then
      match rest with
      | first :: second :: third :: later =>
        splitTokens (current.offer key [first, second, third]) later
      | _ => .error ⟨key⟩
    else
      match rest with
      | value :: later => splitTokens (current.offer key [value]) later
      | [] => .error ⟨key⟩

def tokens (text : String) : List String :=
  (splitOn ';' text.toList).map String.ofList

/-- The records of a text. -/
def split (text : String) : Except Truncated (List Record) :=
  splitTokens .empty (tokens text)

/-- A record as text: every key and every value with a semicolon after it, and one more. -/
def write (record : Record) : String :=
  String.join (record.toList.map fun (key, values) =>
    String.join ((key :: values).map (· ++ ";"))) ++ ";"

def writeAll (records : List Record) : String :=
  String.join (records.map write)

def first? (record : Record) (key : String) : Option String :=
  (record.get? key).bind (·.head?)

/-- A record as messages show it: keys and lists of values. -/
def text (record : Record) : String :=
  let items := record.toList.map fun (key, values) =>
    quoted key ++ ": [" ++ ", ".intercalate (values.map quoted) ++ "]"
  "\x7b" ++ ", ".intercalate items ++ "\x7d"

end Record

end SqlResolution
