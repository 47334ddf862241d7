/-
# Whole numbers as text

A whole number is a row of digits, which may start with a plus sign.
-/

import Gradebook.Decimal.Reading

namespace Gradebook
namespace Decimal

/-- A whole number below a bound. -/
def readBelow? (bound : Nat) (s : List Char) : Option Nat :=
  let digits := match s with
    | '+' :: rest => rest
    | s => s
  if digits.isEmpty || !digits.all Char.isDigit then none
  else
    let value := digitsValue 0 digits
    if value < bound then some value else none

end Decimal
end Gradebook
