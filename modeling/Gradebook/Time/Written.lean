/-
# Instants as text

An instant is written as `2024-03-01T23:59:00+03:00`: the date and the time of day at its
offset, and the offset. The fraction of the second is left out when it is zero and else has
three, six or nine digits, as few as are exact. A leap second is second 60. Years outside of
0 to 9999 have a sign and at least four digits.
-/

import Gradebook.Time.Instant

namespace Gradebook

/-- A number with leading zeros up to a width. -/
def padded (width n : Nat) : String :=
  let digits := Nat.toDigits 10 n
  String.ofList (List.replicate (width - digits.length) '0' ++ digits)

namespace Date

def yearText (year : Int) : String :=
  if 0 ≤ year && year ≤ 9999 then padded 4 year.toNat
  else (if year < 0 then "-" else "+") ++ padded 4 year.natAbs

def text (d : Date) : String :=
  yearText d.year ++ "-" ++ padded 2 d.month ++ "-" ++ padded 2 d.day

end Date

namespace Instant

/-- The fraction of a second, with its point. -/
def fractionText (nano : Nat) : String :=
  if nano = 0 then ""
  else if nano % 1000000 = 0 then "." ++ padded 3 (nano / 1000000)
  else if nano % 1000 = 0 then "." ++ padded 6 (nano / 1000)
  else "." ++ padded 9 nano

/-- The date and the time of day, without an offset. -/
def clockText (a : Instant) : String :=
  (Date.ofDayNumber a.day).text ++ "T" ++ padded 2 (a.second / 3600) ++ ":"
    ++ padded 2 (a.second / 60 % 60) ++ ":" ++ padded 2 (a.second % 60 + a.nano / 1000000000)
    ++ fractionText (a.nano % 1000000000)

/-- **An instant in universal time,** marked with `Z`. -/
def text (a : Instant) : String := a.clockText ++ "Z"

end Instant

namespace LocalInstant

/-- An offset in hours and minutes, to the nearest minute. -/
def offsetText (offset : Int) : String :=
  let minutes := (offset.natAbs + 30) / 60
  (if offset < 0 then "-" else "+") ++ padded 2 (minutes / 60) ++ ":" ++ padded 2 (minutes % 60)

/-- The clock at its offset, with the offset in figures even if it is zero. -/
def numericText (a : LocalInstant) : String :=
  (a.instant.shift a.offset).clockText ++ offsetText a.offset

/-- **The clock at its offset,** an offset of zero being written `Z`. -/
def text (a : LocalInstant) : String :=
  if a.offset = 0 then a.instant.text else a.numericText

end LocalInstant
end Gradebook
