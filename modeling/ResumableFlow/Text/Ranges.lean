/-!
# Classes of characters as ranges

A class of characters is a list of code point ranges, both ends included. The tables of this library
are written as such lists.
-/

namespace ResumableFlow
namespace Text

/-- Ranges of code points, each with its first and its last member. -/
abbrev CodeRanges := List (Nat × Nat)

/-- Whether the character lies in one of the ranges. -/
def CodeRanges.holds (ranges : CodeRanges) (c : Char) : Bool :=
  ranges.any fun (first, last) => first ≤ c.toNat && c.toNat ≤ last

end Text
end ResumableFlow
