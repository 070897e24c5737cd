/-!
# Sets of characters

They are given by the ranges of their code points.
-/

namespace SchemaMigration.Text

/-- The code points from `first` to `last`, both included. -/
structure CharRange where
  first : Nat
  last : Nat

/-- Does the range hold the code point? -/
def CharRange.holds (range : CharRange) (code : Nat) : Bool :=
  range.first ≤ code && code ≤ range.last

/-- Does one of the ranges hold the character? -/
def inRanges (ranges : List CharRange) (c : Char) : Bool :=
  ranges.any (·.holds c.toNat)

end SchemaMigration.Text
