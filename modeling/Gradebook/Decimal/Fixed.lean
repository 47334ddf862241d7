/-
# A fixed number of decimal places

The exact value of the number is rounded to the given number of places, a tie going to the
even neighbour. The sign is kept, also where all digits are zero.
-/

import Gradebook.Binary64.Basic
import Gradebook.Rounding

namespace Gradebook
namespace Decimal

/-- `count` with `places` digits after the point, of which there is at least one. -/
def fixedText (count places : Nat) : List Char :=
  let digits := Nat.toDigits 10 count
  let padded := List.replicate (places + 1 - digits.length) '0' ++ digits
  let whole := padded.length - places
  padded.take whole ++ '.' :: padded.drop whole

end Decimal

/-- A finite number in units of `10 ^ -places`, rounded to a whole count. -/
def Binary64.countOfPlaces (x : Binary64) (places : Nat) : Nat :=
  Rounding.nearestEven (x.units * Nat.pow 10 places) Binary64.unitsPerOne

/-- **A number with a fixed number of decimal places.** -/
def Binary64.fixed (places : Nat) (x : Binary64) : String :=
  let sign := if x.negative then "-" else ""
  if x.isNaN then "NaN"
  else if x.isInfinite then sign ++ "inf"
  else sign ++ String.ofList (Decimal.fixedText (x.countOfPlaces places) places)

end Gradebook
