import SqlResolution.Address.V4

/-!
# IPv6 addresses

Eight groups of sixteen bits to base 16 with colons between them, and perhaps a
zone after a percent sign. Two colons together, once, stand for a run of zero
groups, of which there must be at least one; the last two groups may be written
as an IPv4 address.

An address is written with small digits and no leading zeros, and the longest run
of two or more zero groups, the first of several, is left out.
-/

namespace SqlResolution.Address

open SqlResolution.Text

/-- A character of the name of a zone: no percent sign and no slash. -/
def isZoneChar (c : Char) : Bool :=
  c ≠ '%' && c ≠ '/'

/-- The zone of an address: a name that is not empty. -/
structure Zone where
  name : List Char
  ne_nil : name ≠ []
  plain : name.all isZoneChar = true
  deriving DecidableEq

structure V6 where
  groups : List UInt16
  length_groups : groups.length = 8
  zone : Option Zone
  deriving DecidableEq

/-- A digit to base 16. -/
def hexDigitValue? (c : Char) : Option Nat :=
  if '0' ≤ c && c ≤ '9' then some (c.toNat - '0'.toNat)
  else if 'a' ≤ c && c ≤ 'f' then some (c.toNat - 'a'.toNat + 10)
  else if 'A' ≤ c && c ≤ 'F' then some (c.toNat - 'A'.toNat + 10)
  else none

/-- Reads a group: one to four digits to base 16. -/
def readGroup? (cs : List Char) : Option UInt16 :=
  if cs = [] || 4 < cs.length then none
  else (cs.mapM hexDigitValue?).map fun ds => (ds.foldl (16 * · + ·) 0).toUInt16

/-- The two groups that an IPv4 address at the end stands for. -/
def V4.groups (address : V4) : List UInt16 :=
  [address.a.toUInt16 * 256 + address.b.toUInt16, address.c.toUInt16 * 256 + address.d.toUInt16]

/-- Reads groups with colons between them; the last may be an IPv4 address if `tail` allows. -/
def readGroups? (tail : Bool) : List (List Char) → Option (List UInt16)
  | [] => some []
  | [last] =>
    if tail && last.contains '.' then
      match V4.read (String.ofList last) with
      | .ok address => some address.groups
      | .error _ => none
    else (readGroup? last).map ([·])
  | group :: later => do
    let first ← readGroup? group
    let others ← readGroups? tail later
    some (first :: others)

/-- Reads the groups on one side of the double colon, where there may be none. -/
def readSide? (tail : Bool) (cs : List Char) : Option (List UInt16) :=
  if cs = [] then some [] else readGroups? tail (splitOn ':' cs)

/-- The parts before and after the first double colon. -/
def cutDoubleColon? : List Char → Option (List Char × List Char)
  | ':' :: ':' :: rest => some ([], rest)
  | c :: rest => (cutDoubleColon? rest).map fun (before, after) => (c :: before, after)
  | [] => none

/-- Reads the groups, those left out included. -/
def readAllGroups? (cs : List Char) : Option (List UInt16) := do
  match cutDoubleColon? cs with
  | some (before, after) =>
    let high ← readSide? false before
    let low ← readSide? true after
    if high.length + low.length < 8 then
      some (high ++ List.replicate (8 - high.length - low.length) 0 ++ low)
    else none
  | none => readGroups? true (splitOn ':' cs)

/-- The zone of this name, if it can be one. -/
def Zone.ofList? (name : List Char) : Option Zone :=
  if h : name ≠ [] ∧ name.all isZoneChar = true then some ⟨name, h.1, h.2⟩ else none

/-- The address of these groups, if they are eight. -/
def V6.ofGroups? (groups : List UInt16) (zone : Option Zone) : Option V6 :=
  if h : groups.length = 8 then some ⟨groups, h, zone⟩ else none

def V6.read? (text : String) : Option V6 := do
  match cutAt '%' text.toList with
  | (cs, none) => V6.ofGroups? (← readAllGroups? cs) none
  | (cs, some name) =>
    let zone ← Zone.ofList? name
    V6.ofGroups? (← readAllGroups? cs) (some zone)

/-- How many zero groups there are from a place on. -/
def zerosAt (groups : List UInt16) (place : Nat) : Nat :=
  ((groups.drop place).takeWhile (· = 0)).length

/-- Where the longest run of zero groups begins, the first of several. -/
def longestZeros (groups : List UInt16) : Nat :=
  (List.range groups.length).foldl
    (fun best place => if zerosAt groups best < zerosAt groups place then place else best) 0

def groupsText (groups : List UInt16) : List Char :=
  [':'].intercalate (groups.map fun group => Nat.toDigits 16 group.toNat)

/-- The address in its shortest form. -/
def V6.text (address : V6) : String :=
  let place := longestZeros address.groups
  let zeros := zerosAt address.groups place
  let body :=
    if zeros < 2 then groupsText address.groups
    else
      groupsText (address.groups.take place) ++ ':' :: ':' ::
        groupsText (address.groups.drop (place + zeros))
  match address.zone with
  | none => String.ofList body
  | some zone => String.ofList (body ++ '%' :: zone.name)

end SqlResolution.Address
