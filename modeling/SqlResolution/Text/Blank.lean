import SqlResolution.Text.Runs

/-!
# Blank characters

The blanks that may surround a number: space, tab and the line controls of ASCII,
and the spaces and separators of the rest of Unicode.
-/

namespace SqlResolution.Text

def blankRuns : List (Nat × Nat) := [
  (0x9, 0xd), (0x20, 0x20), (0x85, 0x85), (0xa0, 0xa0), (0x1680, 0x1680), (0x2000, 0x200a),
  (0x2028, 0x2029), (0x202f, 0x202f), (0x205f, 0x205f), (0x3000, 0x3000)
]

def isBlank (c : Char) : Bool :=
  inRuns blankRuns c

end SqlResolution.Text
