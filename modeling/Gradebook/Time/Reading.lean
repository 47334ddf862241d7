/-
# Reading instants

Three forms are read.

* The *strict* form is `2024-03-01T23:59:00.5+03:00`: fields of fixed width, `T`, `t` or a space
  before the time, and `Z`, `z` or an offset after it.
* The *lenient* form admits narrower fields, years with a sign, blanks before every number and
  separator of the date and of the time, and blanks and colons within the offset; the offset
  may also be the word `UTC`.
* The *day-first* form is `01-03-2024 23:59` at an offset that is given beside it.

In all of them a second of 60 is a leap second, digits of the fraction after the ninth are
dropped, and a date that the calendar does not have is refused.
-/

import Gradebook.Time.Instant
import Gradebook.Text.Blank

namespace Gradebook
namespace TimeText

/-- What a reader of the head of a text delivers: a value and the rest of the text. -/
abbrev Reader (α : Type) := List Char → Option (α × List Char)

/-- Skips blanks. -/
def skipBlanks (s : List Char) : List Char := s.dropWhile Text.isBlank

/-- A given character. -/
def char (c : Char) : Reader Unit
  | d :: rest => if d = c then some ((), rest) else none
  | [] => none

/-- A number of at least `least` digits, of which no more than `most` are taken. -/
def number (least most : Nat) : Reader Nat := fun s =>
  let digits := (s.take most).takeWhile Char.isDigit
  if digits.length < least then none
  else some (Decimal.digitsValue 0 digits, s.drop digits.length)

/-- The fraction of a second in nanoseconds, if there is a point. -/
def fraction : Reader Nat
  | '.' :: rest =>
    let digits := rest.takeWhile Char.isDigit
    let kept := digits.take 9
    if digits.isEmpty then none
    else some (Decimal.digitsValue 0 kept * Nat.pow 10 (9 - kept.length), rest.drop digits.length)
  | s => some (0, s)

/-- The date and the time of day that a text shows. -/
structure Clock where
  date : Date
  hour : Nat
  minute : Nat
  second : Nat
  nano : Nat

/-- **The instant that a clock shows at an offset,** if there are such a date and time of day
and both the clock and the instant lie within the years that are kept. -/
def Clock.at? (c : Clock) (offset : Int) : Option LocalInstant :=
  let day := c.date.dayNumber
  let leap := if c.second = 60 then 1 else 0
  let nano := c.nano + leap * 1000000000
  if h : c.date.isValid && Date.firstDay ≤ day && day ≤ Date.lastDay
      && c.hour < 24 && c.minute < 60 && c.second ≤ 60 && nano < 2000000000 then
    let second := c.hour * 3600 + c.minute * 60 + (c.second - leap)
    let instant := Instant.ofSeconds day (second - offset) nano (by simp at h; exact h.2)
    if Date.firstDay ≤ instant.day && instant.day ≤ Date.lastDay then some ⟨instant, offset⟩
    else none
  else none

/-- Offsets are less than a day. -/
def isOffset (offset : Int) : Bool := offset.natAbs < 86400

/-- The sign of an offset; a minus sign may be the mathematical one. -/
def offsetSign : Reader Bool
  | '+' :: rest => some (false, rest)
  | '-' :: rest => some (true, rest)
  | '\u2212' :: rest => some (true, rest)
  | _ => none

/-- An offset in hours and minutes of two digits each, with what `separator` skips between
them, or `Z`. -/
def offset (separator : List Char → Option (List Char)) : Reader Int
  | 'Z' :: rest => some (0, rest)
  | 'z' :: rest => some (0, rest)
  | s => do
    let (negative, s) ← offsetSign s
    let (hours, s) ← number 2 2 s
    let s ← separator s
    let (minutes, s) ← number 2 2 s
    let seconds := hours * 3600 + minutes * 60
    if 60 ≤ minutes then none
    else some (if negative then -(seconds : Int) else seconds, s)

/-- What stands between the date and the time of day. -/
def timeMark : Reader Unit
  | 'T' :: rest => some ((), rest)
  | 't' :: rest => some ((), rest)
  | ' ' :: rest => some ((), rest)
  | _ => none

/-! ## The strict form -/

def strictClock : Reader Clock := fun s => do
  let (year, s) ← number 4 4 s
  let (_, s) ← char '-' s
  let (month, s) ← number 2 2 s
  let (_, s) ← char '-' s
  let (day, s) ← number 2 2 s
  let (_, s) ← timeMark s
  let (hour, s) ← number 2 2 s
  let (_, s) ← char ':' s
  let (minute, s) ← number 2 2 s
  let (_, s) ← char ':' s
  let (second, s) ← number 2 2 s
  let (nano, s) ← fraction s
  return (⟨⟨year, month, day⟩, hour, minute, second, nano⟩, s)

/-- A clock at an offset, and nothing after it. -/
def finish (clock : Clock) (offset : Int) (rest : List Char) : Option LocalInstant :=
  if rest.isEmpty && isOffset offset then clock.at? offset else none

/-- **Reads the strict form.** -/
def strict? (s : List Char) : Option LocalInstant := do
  let (clock, s) ← strictClock s
  let (offset, s) ← offset (fun s => (char ':' s).map (·.2)) s
  finish clock offset s

/-! ## The lenient form -/

/-- A year: up to four digits, or a sign and any number of them. -/
def year : Reader Int := fun s =>
  match skipBlanks s with
  | '-' :: rest => (number 1 rest.length rest).map fun (n, s) => (-(n : Int), s)
  | '+' :: rest => (number 1 rest.length rest).map fun (n, s) => ((n : Int), s)
  | s => (number 1 4 s).map fun (n, s) => ((n : Int), s)

/-- One or two digits after blanks. -/
def field : Reader Nat := fun s => number 1 2 (skipBlanks s)

/-- A separator after blanks. -/
def mark (c : Char) : Reader Unit := fun s => char c (skipBlanks s)

def lenientClock : Reader Clock := fun s => do
  let (year, s) ← year s
  let (_, s) ← mark '-' s
  let (month, s) ← field s
  let (_, s) ← mark '-' s
  let (day, s) ← field s
  let (_, s) ← timeMark s
  let (hour, s) ← field s
  let (_, s) ← mark ':' s
  let (minute, s) ← field s
  let (_, s) ← mark ':' s
  let (second, s) ← field s
  let (nano, s) ← fraction s
  return (⟨⟨year, month, day⟩, hour, minute, second, nano⟩, s)

/-- Skips colons and blanks. -/
def skipColons (s : List Char) : List Char := s.dropWhile fun c => c = ':' || Text.isBlank c

/-- An offset in the lenient form. -/
def lenientOffset : Reader Int := fun s =>
  if (s.take 3).map Char.toUpper = "UTC".toList then some (0, s.drop 3)
  else offset (fun s => some (skipColons s)) s

/-- **Reads the lenient form.** -/
def lenient? (s : List Char) : Option LocalInstant := do
  let (clock, s) ← lenientClock s
  let (offset, s) ← lenientOffset (skipBlanks s)
  finish clock offset (skipBlanks s)

/-! ## The day-first form -/

def dayFirstClock : Reader Clock := fun s => do
  let (day, s) ← field s
  let (_, s) ← char '-' s
  let (month, s) ← field s
  let (_, s) ← char '-' s
  let (year, s) ← year s
  let (hour, s) ← field s
  let (_, s) ← char ':' s
  let (minute, s) ← field s
  return (⟨⟨year, month, day⟩, hour, minute, 0, 0⟩, s)

/-- A clock in the day-first form, and nothing after it. -/
def dayFirst? (s : List Char) : Option Clock := do
  let (clock, rest) ← dayFirstClock s
  if rest.isEmpty then some clock else none

end TimeText

/-- **Reads a date of a course:** the day-first form at the offset of the course, else the
strict form. Blanks at either end are ignored. No text has both forms, since a strict one has
four digits before its first separator. -/
def LocalInstant.read? (offset : Int) (s : String) : Option LocalInstant :=
  let s := Text.trimChars s.toList
  match TimeText.dayFirst? s with
  | some clock => clock.at? offset
  | none => TimeText.strict? s

end Gradebook
