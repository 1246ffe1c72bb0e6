/-!
# Sets and maps of code points

Tables over Unicode are long, so they are written as intervals and as runs:

* `inRanges` is membership in a list of inclusive intervals;
* `inRuns` is membership in a list of arithmetic progressions;
* `shiftBy?` looks a code point up in a list of shifted progressions.
-/

namespace LuaStubs.Text

/-- Membership in a list of inclusive intervals `(first, last)`. -/
def inRanges (table : List (Nat × Nat)) (n : Nat) : Bool :=
  table.any fun r => r.1 ≤ n && n ≤ r.2

/-- Membership in a list of progressions `(first, last, step)`. -/
def inRuns (table : List (Nat × Nat × Nat)) (n : Nat) : Bool :=
  table.any fun r => r.1 ≤ n && n ≤ r.2.1 && (n - r.1) % r.2.2 == 0

/-- The image of a code point under progressions `(first, last, step, shift)`: the first one that
holds it says by how much it moves. -/
def shiftBy? (table : List (Nat × Nat × Nat × Int)) (n : Nat) : Option Nat :=
  (table.find? fun r => r.1 ≤ n && n ≤ r.2.1 && (n - r.1) % r.2.2.1 == 0).map fun r =>
    ((n : Int) + r.2.2.2).toNat

end LuaStubs.Text
