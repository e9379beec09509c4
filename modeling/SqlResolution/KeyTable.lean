import SqlResolution.Text.LowerCase

/-!
# Tables whose keys have no case

Two keys are the same when their lower-case forms are. A table keeps its entries
in the order in which the keys first came, and shows each key as it was last
written. Every entry carries the lower-case form of its key, so that a look-up
lower-cases only what it looks for.
-/

namespace SqlResolution

open SqlResolution.Text

namespace KeyTable

/-- A key as written, its lower-case form, and a value. -/
structure Entry (α : Type) where
  key : String
  folded : String
  value : α
  folded_eq : folded = lower key
  deriving DecidableEq

def Entry.ofKey {α : Type} (key : String) (value : α) : Entry α :=
  ⟨key, lower key, value, rfl⟩

theorem Entry.eq_ofKey {α : Type} (entry : Entry α) : entry = .ofKey entry.key entry.value := by
  obtain ⟨key, folded, value, rfl⟩ := entry
  rfl

end KeyTable

/-- A table whose keys have no case. -/
structure KeyTable (α : Type) where
  entries : List (KeyTable.Entry α)
  deriving DecidableEq

namespace KeyTable

variable {α β : Type}

def empty : KeyTable α :=
  ⟨[]⟩

def size (table : KeyTable α) : Nat :=
  table.entries.length

def isEmpty (table : KeyTable α) : Bool :=
  table.entries.isEmpty

/-- The entry of a key in any case. -/
def entry? (table : KeyTable α) (key : String) : Option (Entry α) :=
  let folded := lower key
  table.entries.find? (·.folded = folded)

/-- The value of a key in any case. -/
def get? (table : KeyTable α) (key : String) : Option α :=
  (table.entry? key).map (·.value)

/-- A key occurs in some case. -/
def contains (table : KeyTable α) (key : String) : Bool :=
  (table.entry? key).isSome

/-- Puts a value at the end of the table; the key must not be in it yet. -/
def push (table : KeyTable α) (key : String) (value : α) : KeyTable α :=
  ⟨table.entries ++ [.ofKey key value]⟩

/-- Gives a key a value, at the place of the key if it has one, otherwise at the end. -/
def insert (table : KeyTable α) (key : String) (value : α) : KeyTable α :=
  if table.contains key then
    let folded := lower key
    ⟨table.entries.map fun entry => if entry.folded = folded then .ofKey key value else entry⟩
  else table.push key value

/-- Takes a key out of the table, if it is there. -/
def erase? (table : KeyTable α) (key : String) : Option (KeyTable α) :=
  if table.contains key then
    let folded := lower key
    some ⟨table.entries.filter (·.folded ≠ folded)⟩
  else none

/-- The keys as last written, with their values. -/
def toList (table : KeyTable α) : List (String × α) :=
  table.entries.map fun entry => (entry.key, entry.value)

/-- The lower-case keys, with their values. -/
def toFoldedList (table : KeyTable α) : List (String × α) :=
  table.entries.map fun entry => (entry.folded, entry.value)

/-- The table that results from giving the keys their values one after another. -/
def ofList (items : List (String × α)) : KeyTable α :=
  items.foldl (fun table (key, value) => table.insert key value) empty

/-- Two tables have the same keys with the same values, whatever their order. -/
def agrees (same : α → α → Bool) (left right : KeyTable α) : Bool :=
  left.size = right.size &&
    left.entries.all fun entry =>
      match right.entries.find? (·.folded = entry.folded) with
      | some other => same entry.value other.value
      | none => false

end KeyTable

end SqlResolution
