import SqlResolution.Failure.Unfit
import SqlResolution.Value

/-!
# Comparing values

Values are compared by what they hold: numbers by their size whatever their type,
records by class and fields, mappings without regard to order.

What is equal must also be found under one key. Lists and mappings can change and
are no keys, nor is a tuple or a record that holds one at any depth.
-/

namespace SqlResolution.Value

open SqlResolution.Number

/-- A number as a quotient: numerator and denominator. -/
def ratio? : Value → Option (Int × Nat)
  | flag holds => some (if holds then 1 else 0, 1)
  | integer n => some (n, 1)
  | real (.finite negative significand exponent) =>
    let (num, den) := Binary64.scaled significand exponent
    some (if negative then -(num : Int) else num, den)
  | _ => none

def sameNumber (left right : Value) : Bool :=
  match left, right with
  | real (.infinite a), real (.infinite b) => a == b
  | left, right =>
    match left.ratio?, right.ratio? with
    | some (a, b), some (c, d) => a * (d : Int) == c * (b : Int)
    | _, _ => false

mutual

def same : Value → Value → Bool
  | null, null => true
  | text a, text b => a == b
  | list a, list b => sameAll a b
  | tuple a, tuple b => sameAll a b
  | mapping a, mapping b => a.length == b.length && sameItems a b
  | address a, address b => a == b
  | record c a, record d b => c == d && sameFields a b
  | left, right => sameNumber left right

def sameAll : List Value → List Value → Bool
  | [], [] => true
  | a :: as, b :: bs => same a b && sameAll as bs
  | _, _ => false

/-- Every key of the first mapping has the same value in the second. -/
def sameItems : List (String × Value) → List (String × Value) → Bool
  | [], _ => true
  | (key, value) :: rest, other =>
    (match other.find? (·.1 == key) with
      | some (_, found) => same value found
      | none => false) && sameItems rest other

/-- Two records have the same fields in order. -/
def sameFields : List (String × Value) → List (String × Value) → Bool
  | [], [] => true
  | (_, a) :: as, (_, b) :: bs => same a b && sameFields as bs
  | _, _ => false

end

/-! ## Keys -/

mutual

/-- The first part of a value that can change. -/
def changeable? : Value → Option Value
  | list items => some (list items)
  | mapping items => some (mapping items)
  | tuple items => changeableItem? items
  | record _ fields => changeableField? fields
  | _ => none

/-- The first part that can change in a sequence. -/
def changeableItem? : List Value → Option Value
  | [] => none
  | value :: rest => (changeable? value).or (changeableItem? rest)

/-- The first part that can change in the fields of a record. -/
def changeableField? : List (String × Value) → Option Value
  | [] => none
  | (_, value) :: rest => (changeable? value).or (changeableField? rest)

end

/-- Two values are equal, and then they are one key. -/
def equate (left right : Value) : Except WrongType Bool :=
  if left.same right then
    match left.changeable? with
    | some part => .error (.changeable part.typeName)
    | none => .ok true
  else .ok false

end SqlResolution.Value
