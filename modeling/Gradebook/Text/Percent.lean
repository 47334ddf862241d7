/-
# Percent signs for bytes

In the parts of an address a percent sign with two hexadecimal digits stands for a byte. Any
other percent sign stands for itself. In a form a plus sign stands for a space.
-/

import Gradebook.Text.Hexadecimal
import Gradebook.Text.Utf8

namespace Gradebook
namespace Text

/-- **The bytes that a text with percent signs stands for.** -/
def percentBytes : List Char → List UInt8
  | '%' :: a :: b :: rest =>
    match hexDigit? a, hexDigit? b with
    | some high, some low => UInt8.ofNat (16 * high + low) :: percentBytes rest
    | _, _ => String.utf8EncodeChar '%' ++ percentBytes (a :: b :: rest)
  | c :: rest => String.utf8EncodeChar c ++ percentBytes rest
  | [] => []

/-- The text that a part of an address stands for, if its bytes are one. -/
def ofPercent? (s : List Char) : Option String := ofUtf8? (percentBytes s)

/-- The text that a name or value of a form stands for. -/
def ofForm (s : List Char) : String :=
  ofUtf8Lossy (percentBytes (s.map fun c => if c = '+' then ' ' else c))

end Text
end Gradebook
