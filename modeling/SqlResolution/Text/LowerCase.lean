import SqlResolution.Text.Cased
import SqlResolution.Text.LowerCase.Table

/-!
# Lower case

Keys and names are compared without regard to case, over all of Unicode: each
capital becomes its small letter, the dotted capital I becomes an i and a
combining dot, and a capital sigma at the end of a word becomes the final form.

A word ends at a sigma when a cased letter stands before it and none after it,
looking past the characters that case ignores.
-/

namespace SqlResolution.Text

/-- The small form of one character, its neighbours left aside. -/
def lowerChar (c : Char) : List Char :=
  if c.toNat = 0x130 then ['i', Char.ofNat 0x307]
  else
    match capitalRuns.find? (·.holds c.toNat) with
    | some run => [Char.ofNat (c.toNat + run.shift).toNat]
    | none => [c]

/-- The first character that case does not ignore has case. -/
def meetsCased (cs : List Char) : Bool :=
  match cs.find? (!isCaseIgnorable ·) with
  | some c => isCased c
  | none => false

/-- Lower-cases the rest of a text; `before` holds the characters already passed, nearest
first. -/
def lowerFrom (before : List Char) : List Char → List Char
  | [] => []
  | c :: rest =>
    let small :=
      if c.toNat = 0x3a3 then
        [if meetsCased before && !meetsCased rest then Char.ofNat 0x3c2 else Char.ofNat 0x3c3]
      else lowerChar c
    small ++ lowerFrom (c :: before) rest

def lower (text : String) : String :=
  String.ofList (lowerFrom [] text.toList)

end SqlResolution.Text
