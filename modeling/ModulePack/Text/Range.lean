/-!
# Ranges of code points

Classes of characters are given as inclusive ranges of code points in ascending order.
-/

namespace ModulePack.Text

/-- Whether `n` is in one of the ranges, which are in ascending order. -/
def inRanges : List (Nat × Nat) → Nat → Bool
  | [], _ => false
  | (first, last) :: rest, n => if n < first then false else n ≤ last || inRanges rest n

def meetsRanges (ranges : List (Nat × Nat)) (low high : Nat) : Bool :=
  ranges.any fun (first, last) => low ≤ last && first ≤ high

end ModulePack.Text
