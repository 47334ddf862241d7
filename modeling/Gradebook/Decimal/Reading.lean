/-
# Reading numbers

`Binary64.ofDecimal` is the number nearest to a decimal, and `Binary64.read?` reads the text of
one:

    number   = sign? (decimal | "inf" | "infinity" | "nan")
    decimal  = (digits ("." digits?)? | "." digits) exponent?
    exponent = ("e" | "E") sign? digits

Digits are those of ASCII, and the three words are read in any letter case.
-/

import Gradebook.Binary64.Arithmetic
import Gradebook.Decimal.Shortest

namespace Gradebook

/-- **The number nearest to a decimal.** A decimal beyond the range of the type, or below half
its least positive value, is decided without raising ten to its exponent. -/
def Binary64.ofDecimal (negative : Bool) (d : Decimal) : Binary64 :=
  if d.digits = 0 then { Binary64.zero with negative := negative }
  else
    let place := Decimal.length d.digits + d.exponent
    if 309 < place then Binary64.infinity negative
    else if place < -323 then { Binary64.zero with negative := negative }
    else
      let (num, den) := Decimal.fraction d.digits d.exponent
      Binary64.ofQuotient negative num den

namespace Decimal

/-- The value of a row of digits, after those already read. -/
def digitsValue (start : Nat) (digits : List Char) : Nat :=
  digits.foldl (fun value c => value * 10 + (c.toNat - '0'.toNat)) start

/-- The digits at the head of a text, and what follows them. -/
def spanDigits (s : List Char) : List Char × List Char := s.span Char.isDigit

/-- An optional sign. -/
def sign : List Char → Bool × List Char
  | '-' :: rest => (true, rest)
  | '+' :: rest => (false, rest)
  | rest => (false, rest)

/-- An exponent up to the end of the text; nothing at all is the exponent zero. -/
def exponent? : List Char → Option Int
  | [] => some 0
  | c :: rest =>
    if c = 'e' || c = 'E' then
      let (negative, rest) := sign rest
      let (digits, rest) := spanDigits rest
      if digits.isEmpty || !rest.isEmpty then none
      else
        let size := digitsValue 0 digits
        some (if negative then -(size : Int) else size)
    else none

/-- A decimal without a sign. -/
def read? (s : List Char) : Option Decimal := do
  let (whole, rest) := spanDigits s
  let (fraction, rest) := match rest with
    | '.' :: rest => spanDigits rest
    | rest => ([], rest)
  if whole.isEmpty && fraction.isEmpty then none
  else
    let exponent ← exponent? rest
    return ⟨digitsValue (digitsValue 0 whole) fraction, exponent - fraction.length⟩

end Decimal

/-- Reads the text of a number. -/
def Binary64.read? (s : String) : Option Binary64 :=
  let (negative, rest) := Decimal.sign s.toList
  let lower := rest.map Char.toLower
  if lower = "inf".toList || lower = "infinity".toList then some (Binary64.infinity negative)
  else if lower = "nan".toList then some { Binary64.notANumber with negative := negative }
  else (Decimal.read? rest).map (Binary64.ofDecimal negative)

end Gradebook
