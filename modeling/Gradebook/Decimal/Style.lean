/-
# Numbers as text

A binary64 number is written with its shortest digits. What else there is to decide is held by
a `Style`: which positions of the decimal point are written without an exponent, what follows
a whole number, and the texts of the data that are not finite.

| style | `1` | `1e30` | `-0.0` | infinity |
| --- | --- | --- | --- | --- |
| `Style.plain` | `1` | thirty zeros | `-0` | `inf` |
| `Style.compact` | `1.0` | `1e30` | `-0.0` | `.inf` |
-/

import Gradebook.Decimal.Shortest

namespace Gradebook
namespace Decimal

/-- How numbers are written. -/
structure Style where
  /-- The positions of the point, counted from the left end of the digits, that are written
  without an exponent. -/
  positional : Int → Bool
  /-- What is written after a whole number without an exponent. -/
  wholeMark : String
  /-- Whether the upper of two equally near shortest decimals is taken. -/
  halfUp : Bool
  nan : String
  infinity : String

namespace Style

/-- Never an exponent and no mark after a whole number. -/
def plain : Style where
  positional _ := true
  wholeMark := ""
  halfUp := true
  nan := "NaN"
  infinity := "inf"

/-- An exponent from `1e16` on and below `1e-5`; whole numbers end in `.0`. -/
def compact : Style where
  positional point := -5 < point && point ≤ 16
  wholeMark := ".0"
  halfUp := false
  nan := ".nan"
  infinity := ".inf"

end Style

/-- A row of zeros. -/
def zeros (n : Nat) : List Char := List.replicate n '0'

/-- `digits * 10 ^ exponent` without an exponent. -/
def positionalText (wholeMark : String) (digits : List Char) (exponent : Int) : List Char :=
  let point := digits.length + exponent
  if 0 ≤ exponent then digits ++ zeros exponent.toNat ++ wholeMark.toList
  else if 0 < point then digits.take point.toNat ++ '.' :: digits.drop point.toNat
  else '0' :: '.' :: zeros (-point).toNat ++ digits

/-- One digit, the others after a point, and the exponent. -/
def scientificText (digits : List Char) (exponent : Int) : List Char :=
  let power := digits.length + exponent - 1
  let mantissa := match digits with
    | first :: second :: others => first :: '.' :: second :: others
    | short => short
  mantissa ++ 'e' :: (toString power).toList

/-- A decimal in a style. -/
def text (style : Style) (d : Decimal) : List Char :=
  let digits := Nat.toDigits 10 d.digits
  if d.digits = 0 || style.positional (digits.length + d.exponent) then
    positionalText style.wholeMark digits d.exponent
  else scientificText digits d.exponent

end Decimal

/-- **A number in a style.** The sign of zero is kept; a datum that is not a number has no
sign. -/
def Binary64.text (style : Decimal.Style) (x : Binary64) : String :=
  let sign := if x.negative then "-" else ""
  if x.isNaN then style.nan
  else if x.isInfinite then sign ++ style.infinity
  else sign ++ String.ofList (Decimal.text style (Decimal.shortest style.halfUp x.magnitude))

end Gradebook
