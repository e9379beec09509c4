import SqlResolution.Address
import SqlResolution.Number.Shortest

/-!
# Values that are shown

What the program knows about an instance is shown in two forms: as one line, in
which every part tells its type, and as plain data. Both start from one type of
values, in which a record is a class name and fields in order.
-/

namespace SqlResolution

open SqlResolution.Number
open SqlResolution.Text

/-- A value. -/
inductive Value where
  | null
  | flag (holds : Bool)
  | integer (n : Int)
  | real (x : Binary64)
  | text (content : String)
  | list (items : List Value)
  | tuple (items : List Value)
  | mapping (items : List (String × Value))
  | address (content : Address)
  | record (className : String) (fields : List (String × Value))

namespace Value

/-- The name of the type of a value. Each class of records is a type. -/
def typeName : Value → String
  | null => "NoneType"
  | flag _ => "bool"
  | integer _ => "int"
  | real _ => "float"
  | text _ => "str"
  | list _ => "list"
  | tuple _ => "tuple"
  | mapping _ => "dict"
  | address (.v4 _) => "IPv4Address"
  | address (.v6 _) => "IPv6Address"
  | record className _ => className

mutual

/-- A value on one line, so that its type can be told. -/
def line : Value → String
  | null => "None"
  | flag holds => if holds then "True" else "False"
  | integer n => toString n
  | real x => x.text
  | text content => quoted content
  | list items => "[" ++ ", ".intercalate (lines items) ++ "]"
  | tuple items =>
    match lines items with
    | [only] => "(" ++ only ++ ",)"
    | shown => "(" ++ ", ".intercalate shown ++ ")"
  | mapping items => "\x7b" ++ ", ".intercalate (itemLines items) ++ "\x7d"
  | address content => (address content).typeName ++ "(" ++ quoted content.text ++ ")"
  | record className fields => className ++ "(" ++ ", ".intercalate (fieldLines fields) ++ ")"

def lines : List Value → List String
  | [] => []
  | value :: rest => value.line :: lines rest

def itemLines : List (String × Value) → List String
  | [] => []
  | (key, value) :: rest => (quoted key ++ ": " ++ value.line) :: itemLines rest

def fieldLines : List (String × Value) → List String
  | [] => []
  | (name, value) :: rest => (name ++ "=" ++ value.line) :: fieldLines rest

end

/-- A value as part of a text: a text stands for itself, an address has its normal form. -/
def display : Value → String
  | text content => content
  | address content => content.text
  | value => value.line

mutual

/-- A value as plain data: records become mappings, and tuples lists. -/
def plain : Value → Value
  | record className fields => mapping (plainFields (className = "InstanceInfo") fields)
  | tuple items => list (plainAll items)
  | value => value

/-- The values of a tuple as plain data. -/
def plainAll : List Value → List Value
  | [] => []
  | record className fields :: rest => plain (record className fields) :: plainAll rest
  | value :: rest => value :: plainAll rest

/-- The fields of a record as plain data; the address of an instance becomes a text. -/
def plainFields (ofInstance : Bool) : List (String × Value) → List (String × Value)
  | [] => []
  | (name, value) :: rest =>
    (name, if ofInstance && name = "addr" then text value.display else plain value) ::
      plainFields ofInstance rest

end

end Value

end SqlResolution
