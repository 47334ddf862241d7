/-
# Durations

A duration is a whole number of nanoseconds. As text it is a row of components such as
`1h30m`, each a decimal number followed by a unit:

    duration  = component+
    component = number unit
    number    = digits ("." digits?)? | "." digits
    unit      = "ns" | "us" | "µs" | "μs" | "ms" | "s" | "m" | "h" | "d" | "w"

The components are added up in binary64 arithmetic, so a total of more than `2 ^ 53`
nanoseconds may be off by a rounding. A total of `2 ^ 63` or more is refused.
-/

import Gradebook.Binary64.Arithmetic
import Gradebook.Decimal.Reading
import Gradebook.Text.Blank

namespace Gradebook

/-- A signed length of time in nanoseconds. -/
structure Duration where
  nanos : Int
deriving DecidableEq, Inhabited

namespace Duration

/-- Whole milliseconds, toward zero. -/
def milliseconds (d : Duration) : Int := d.nanos.tdiv 1000000

/-- Whole seconds, toward zero. -/
def seconds (d : Duration) : Int := d.nanos.tdiv 1000000000

def ofDays (n : Int) : Duration := ⟨n * 86400000000000⟩

/-- The nanoseconds in a unit of time. -/
def unitNanos? (unit : List Char) : Option Nat :=
  match String.ofList unit with
  | "ns" => some 1
  | "us" | "\u00b5s" | "\u03bcs" => some 1000
  | "ms" => some 1000000
  | "s" => some 1000000000
  | "m" => some 60000000000
  | "h" => some 3600000000000
  | "d" => some 86400000000000
  | "w" => some 604800000000000
  | _ => none

/-- A number of units of time. -/
structure Component where
  amount : Binary64
  unitNanos : Nat
deriving DecidableEq

/-- The length of a component in nanoseconds. -/
def Component.nanos (c : Component) : Binary64 := c.amount * Binary64.ofNat c.unitNanos

/-- Whether a character belongs to the number of a component and not to its unit. -/
def isNumberChar (c : Char) : Bool := c.isDigit || c = '.'

theorem length_dropWhile_lt {p : Char → Bool} {s : List Char} (h : s.takeWhile p ≠ []) :
    (s.dropWhile p).length < s.length := by
  have whole := congrArg List.length (List.takeWhile_append_dropWhile (p := p) (l := s))
  have some := List.length_pos_iff.2 h
  rw [List.length_append] at whole
  omega

theorem length_dropWhile_le (p : Char → Bool) (s : List Char) :
    (s.dropWhile p).length ≤ s.length := by
  have whole := congrArg List.length (List.takeWhile_append_dropWhile (p := p) (l := s))
  rw [List.length_append] at whole
  omega

/-- **The components of a text**, each number with the unit that follows it. -/
def components? (s : List Char) : Option (List Component) :=
  if s = [] then some []
  else if _h : s.takeWhile isNumberChar = [] then none
  else do
    let rest := s.dropWhile isNumberChar
    let amount ← Decimal.read? (s.takeWhile isNumberChar)
    let unitNanos ← unitNanos? (rest.takeWhile fun c => !isNumberChar c)
    let others ← components? (rest.dropWhile fun c => !isNumberChar c)
    return ⟨Binary64.ofDecimal false amount, unitNanos⟩ :: others
termination_by s.length
decreasing_by
  exact Nat.lt_of_le_of_lt (length_dropWhile_le _ _) (length_dropWhile_lt ‹_›)

/-- The sum of the components, added from the left. -/
def total (components : List Component) : Binary64 :=
  components.foldl (fun sum c => sum + c.nanos) Binary64.zero

/-- Totals from here on are refused. -/
def limit : Binary64 := Binary64.ofNat 0x8000000000000000

/-- **Reads a duration**, blanks at either end aside. -/
def read? (s : String) : Option Duration := do
  let components ← components? (Text.trimChars s.toList)
  let sum := total components
  if components.isEmpty || !sum.isFinite || limit.le sum then none
  else some ⟨sum.roundToInt⟩

end Duration
end Gradebook
