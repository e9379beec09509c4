import SqlResolution.Value

/-!
# Values as JSON text

Plain data is written on one line, or over several lines, two spaces further in at
each level. The keys of a mapping are in order. Only printable ASCII stands for itself in a
text; every other character is written by its UTF-16 units.
-/

namespace SqlResolution.Value

open SqlResolution.Text

/-- One UTF-16 unit as an escape. -/
def jsonUnit (unit : Nat) : List Char :=
  '\x5c' :: 'u' :: hexDigits 4 unit

def jsonChar (c : Char) : List Char :=
  let code := c.toNat
  if c = '\x22' || c = '\x5c' then ['\x5c', c]
  else if 0x20 ≤ code && code < 0x7f then [c]
  else if c = '\n' then ['\x5c', 'n']
  else if c = '\r' then ['\x5c', 'r']
  else if c = '\t' then ['\x5c', 't']
  else if code = 8 then ['\x5c', 'b']
  else if code = 12 then ['\x5c', 'f']
  else if code < 0x10000 then jsonUnit code
  else
    jsonUnit (0xd800 + (code - 0x10000) / 0x400) ++ jsonUnit (0xdc00 + (code - 0x10000) % 0x400)

def jsonString (content : String) : String :=
  String.ofList ('\x22' :: content.toList.flatMap jsonChar ++ ['\x22'])

/-- Where the parts of a value stand: all on one line, or each on a line of its own. -/
inductive Layout where
  | oneLine
  | lines
  deriving DecidableEq, Repr

/-- A new line, so many levels in, if the layout has lines. -/
def Layout.newline (layout : Layout) (level : Nat) : String :=
  match layout with
  | .oneLine => ""
  | .lines => String.ofList ('\n' :: List.replicate (2 * level) ' ')

def Layout.separator (layout : Layout) (level : Nat) : String :=
  match layout with
  | .oneLine => ", "
  | .lines => "," ++ layout.newline level

/-- Parts between brackets, one level further in; nothing at all between the brackets if there
are none. -/
def jsonBlock (layout : Layout) (left right : String) (level : Nat) (parts : List String) :
    String :=
  if parts.isEmpty then left ++ right
  else
    left ++ layout.newline (level + 1) ++ (layout.separator (level + 1)).intercalate parts ++
      layout.newline level ++ right

mutual

/-- A value in JSON, so many levels in. -/
def jsonAt (layout : Layout) (level : Nat) : Value → String
  | null => "null"
  | flag holds => if holds then "true" else "false"
  | integer n => toString n
  | real x => x.text
  | text content => jsonString content
  | address content => jsonString content.text
  | list items | tuple items => jsonBlock layout "[" "]" level (jsonAll layout (level + 1) items)
  | mapping items | record _ items =>
    jsonBlock layout "\x7b" "\x7d" level
      ((jsonItems layout (level + 1) items).mergeSort (fun a b => !(b.1 < a.1)) |>.map (·.2))

def jsonAll (layout : Layout) (level : Nat) : List Value → List String
  | [] => []
  | value :: rest => jsonAt layout level value :: jsonAll layout level rest

/-- The parts of a mapping in JSON, with their keys. -/
def jsonItems (layout : Layout) (level : Nat) : List (String × Value) → List (String × String)
  | [] => []
  | (key, value) :: rest =>
    (key, jsonString key ++ ": " ++ jsonAt layout level value) :: jsonItems layout level rest

end

def json (layout : Layout) (value : Value) : String :=
  value.plain.jsonAt layout 0

end SqlResolution.Value
