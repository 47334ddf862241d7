/-
# Classes of characters as ranges

A class is listed as ranges of code points, both ends included, in ascending order.
-/

namespace Gradebook
namespace Text

/-- Whether a character lies in one of the ranges. -/
def inRanges (ranges : List (Nat × Nat)) (c : Char) : Bool :=
  ranges.any fun (low, high) => low ≤ c.toNat && c.toNat ≤ high

end Text
end Gradebook
