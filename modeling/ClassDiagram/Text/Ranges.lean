/-! # Tables of code points

Sets of characters are given as lists of inclusive ranges of code points. -/

namespace ClassDiagram.Text

/-- Whether a character lies in one of the ranges. -/
def inRanges (ranges : List (Nat × Nat)) (c : Char) : Bool :=
  ranges.any fun (low, high) => decide (low ≤ c.toNat ∧ c.toNat ≤ high)

end ClassDiagram.Text
