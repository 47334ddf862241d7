/-
# Offsets from universal time

An offset is written `utc` in any letter case, `Z`, or as a sign, hours and perhaps a colon and
minutes. Hours and minutes are numbers that may have a sign of their own; hours above 23 and
minutes above 59 are refused. The seconds are worked out in 32 bits, and an offset of a day or
more is refused.
-/

import Gradebook.Decimal.Reading
import Gradebook.Text.Blank

namespace Gradebook
namespace Offset

/-- A number of 32 bits: one sign at most, and digits. -/
def number? (s : List Char) : Option Int :=
  let (negative, digits) := Decimal.sign s
  if digits.isEmpty || !digits.all Char.isDigit then none
  else
    let size : Int := Decimal.digitsValue 0 digits
    let value := if negative then -size else size
    if -0x80000000 ≤ value && value < 0x80000000 then some value else none

/-- The part of a text before its first colon and the part after it, if it has one. -/
def splitColon (s : List Char) : List Char × Option (List Char) :=
  match s.dropWhile (· ≠ ':') with
  | _ :: after => (s.takeWhile (· ≠ ':'), some after)
  | [] => (s, none)

/-- Hours and minutes with a sign, in seconds. -/
def seconds? (sign : Int) (s : List Char) : Option Int := do
  let (hours, minutes) := splitColon s
  let hours ← number? hours
  let minutes ← number? (minutes.getD ['0'])
  if 23 < hours || 59 < minutes then none
  else
    let seconds := (sign * (hours * 3600 + minutes * 60)).bmod UInt32.size
    if seconds.natAbs < 86400 then some seconds else none

/-- **Reads an offset,** in seconds. Blanks at either end are ignored. -/
def read? (s : String) : Option Int :=
  let s := Text.trimChars s.toList
  if s.map Char.toLower = "utc".toList || s = ['Z'] then some 0
  else
    match s with
    | '+' :: rest => seconds? 1 rest
    | '-' :: rest => seconds? (-1) rest
    | _ => none

end Offset
end Gradebook
