/-
# The shortest decimal that reads back

A finite positive binary64 number `x` is the only one in an interval of reals: those nearer to
it than to its two neighbours, the two midpoints included when its magnitude is even, since a
tie goes to the even magnitude (`readsBack`). Of the decimals with one significant digit, with
two, and so on, the first grid that has a point in the interval is taken, and on it the point
nearest to `x`. If a grid has a point in the interval, then one of the two points next to `x`
lies there, so two tests per grid are enough; seventeen digits always are.
-/

import Gradebook.Binary64.Basic

namespace Gradebook

/-- The decimal `digits * 10 ^ exponent`. -/
structure Decimal where
  digits : Nat
  exponent : Int
deriving DecidableEq

namespace Decimal

/-- How many decimal digits a number has; zero has one. -/
def length (n : Nat) : Nat := (Nat.toDigits 10 n).length

/-- **The decimal place of a positive quotient:** the `p` for which
`10 ^ p ≤ num / den < 10 ^ (p + 1)`. -/
def place (num den : Nat) : Int :=
  if den ≤ num then (length (num / den) : Int) - 1 else -(length ((den - 1) / num) : Int)

/-- `digits * 10 ^ exponent` as a pair of numerator and denominator. -/
def fraction (digits : Nat) (exponent : Int) : Nat × Nat :=
  if 0 ≤ exponent then (digits * Nat.pow 10 exponent.toNat, 1)
  else (digits, Nat.pow 10 (-exponent).toNat)

/-- Half a unit goes into one this often. -/
def halvesPerOne : Nat := 2 * Binary64.unitsPerOne

/-- **Whether a decimal reads back as the given magnitude:** it lies between the midpoints to
the two neighbouring magnitudes, or on one of them if the magnitude is even. -/
def readsBack (magnitude : Nat) (d : Decimal) : Bool :=
  let (num, den) := fraction d.digits d.exponent
  let here := Binary64.unitsOf magnitude
  let low := (Binary64.unitsOf (magnitude - 1) + here) * den
  let high := (here + Binary64.unitsOf (magnitude + 1)) * den
  let value := num * halvesPerOne
  if magnitude % 2 = 0 then low ≤ value && value ≤ high else low < value && value < high

/-- Without its trailing zeros. -/
def strip (d : Decimal) : Decimal :=
  if _ : d.digits ≠ 0 ∧ d.digits % 10 = 0 then strip ⟨d.digits / 10, d.exponent + 1⟩ else d
termination_by d.digits
decreasing_by exact Nat.div_lt_self (Nat.pos_of_ne_zero ‹_ ∧ _›.1) (by decide)

/-- The point of the grid `10 ^ exponent` that is taken for a magnitude, if one reads back: of
two that do the nearer, and of two equally near ones the upper if `halfUp` is set and else the
one with the even last digit. -/
def onGrid? (halfUp : Bool) (magnitude : Nat) (exponent : Int) : Option Decimal :=
  let (num, den) := fraction 1 exponent
  let target := Binary64.unitsOf magnitude * den
  let step := num * Binary64.unitsPerOne
  let below := target / step
  let doubled := 2 * (target % step)
  let lower : Decimal := ⟨below, exponent⟩
  let upper : Decimal := ⟨below + 1, exponent⟩
  let upperIsNearer := step < doubled || (doubled = step && (halfUp || below % 2 = 1))
  match readsBack magnitude lower, readsBack magnitude upper with
  | true, true => some (if upperIsNearer then upper else lower)
  | true, false => some lower
  | false, true => some upper
  | false, false => none

/-- The grids with `count` digits, `count + 1` digits and so on are tried in turn, `fuel` of them
at most. -/
def search (halfUp : Bool) (magnitude : Nat) (place : Int) : Nat → Nat → Decimal
  | 0, _ => ⟨0, 0⟩
  | fuel + 1, count =>
    match onGrid? halfUp magnitude (place - count + 1) with
    | some d => d
    | none => search halfUp magnitude place fuel (count + 1)

/-- **The shortest decimal that reads back** as a finite magnitude, without trailing zeros. -/
def shortest (halfUp : Bool) (magnitude : Nat) : Decimal :=
  if magnitude = 0 then ⟨0, 0⟩
  else
    strip <| search halfUp magnitude (place (Binary64.unitsOf magnitude) Binary64.unitsPerOne) 17 1

end Decimal
end Gradebook
