/-
# Blanks

The characters with the Unicode property White_Space, and texts without them at their ends.
-/

import Gradebook.Text.Ranges

namespace Gradebook
namespace Text

/-- The ranges of blanks. -/
def blankRanges : List (Nat × Nat) :=
  [(0x9, 0xD), (0x20, 0x20), (0x85, 0x85), (0xA0, 0xA0), (0x1680, 0x1680), (0x2000, 0x200A),
    (0x2028, 0x2029), (0x202F, 0x202F), (0x205F, 0x205F), (0x3000, 0x3000)]

/-- Whether a character is a blank. -/
def isBlank (c : Char) : Bool := inRanges blankRanges c

/-- Without the blanks at its end. -/
def trimRight (s : List Char) : List Char := (s.reverse.dropWhile isBlank).reverse

/-- **Without the blanks at either end.** -/
def trimChars (s : List Char) : List Char := trimRight (s.dropWhile isBlank)

/-- **Without the blanks at either end.** -/
def trim (s : String) : String := String.ofList (trimChars s.toList)

/-- Whether a text has no character but blanks. -/
def isBlankText (s : String) : Bool := s.toList.all isBlank

end Text
end Gradebook
