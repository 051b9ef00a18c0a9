/-!
# Sets of characters given by ranges

The tables of `Text.Blank` and `Text.Hidden` are lists of closed ranges of
code points.
-/

namespace ProseForms.Text

/-- Whether the code point of a character lies in one of some closed ranges. -/
def inRanges (ranges : List (Nat × Nat)) (c : Char) : Bool :=
  ranges.any fun (low, high) => low ≤ c.toNat && c.toNat ≤ high

end ProseForms.Text
