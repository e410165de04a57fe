/-!
# Ranges of characters

A class of characters as a list of inclusive ranges of their codes.
-/

namespace ForeignMatrix.Text

/-- Inclusive ranges of character codes. -/
abbrev CodeRanges := List (Nat × Nat)

/-- Whether a character's code lies in one of the ranges. -/
def CodeRanges.holds (ranges : CodeRanges) (c : Char) : Bool :=
  ranges.any fun (low, high) => low ≤ c.toNat && c.toNat ≤ high

end ForeignMatrix.Text
