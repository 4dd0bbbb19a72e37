/-
This file gives sets of characters by ranges of code points. The ranges of a set
have both ends included and stand in ascending order.
-/

namespace Literate.Text

/-- Whether the code point of a character lies in one of the ranges. -/
def isWithin (ranges : List (Nat × Nat)) (character : Char) : Bool :=
  ranges.any fun range =>
    decide (range.1 ≤ character.toNat) && decide (character.toNat ≤ range.2)

end Literate.Text
