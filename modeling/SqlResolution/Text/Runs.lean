/-!
# Runs of code points

A property of characters is stored as the runs of consecutive code points that
have it, both ends included and in increasing order. Every table of this folder
has this shape, so that one membership test serves them all.
-/

namespace SqlResolution.Text

/-- A character lies in one of the runs. -/
def inRuns (runs : List (Nat × Nat)) (c : Char) : Bool :=
  runs.any fun run => run.1 ≤ c.toNat && c.toNat ≤ run.2

end SqlResolution.Text
