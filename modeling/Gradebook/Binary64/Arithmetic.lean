/-
# Binary64 arithmetic: exact, then rounded once

`nearestMagnitude num den` rounds the rational `num / den` units to the nearest magnitude,
a tie going to the even one and what is too large to infinity. Sum, product and quotient are
the exact result put through it. Where an operand is not a number, the result is the first
such operand made quiet.
-/

import Gradebook.Binary64.Basic
import Gradebook.Rounding

namespace Gradebook
namespace Binary64

/-- **The magnitude nearest to `num / den` units.** From `2 ^ 53` units on the spacing of the
magnitudes is `2 ^ k` units with `k = log₂ (num / den) - 52`, and a rounding that carries
into the next power of two carries into the next magnitude all the same. -/
def nearestMagnitude (num den : Nat) : Nat :=
  let k := (num / den).log2 - 52
  Nat.min (k * binade + Rounding.nearestEven num (den * Nat.pow 2 k)) infinityMagnitude

theorem nearestMagnitude_le (num den : Nat) : nearestMagnitude num den ≤ infinityMagnitude :=
  Nat.min_le_right _ _

/-- The number of the given sign nearest to `num / den` units. -/
def ofUnits (negative : Bool) (num den : Nat) : Binary64 where
  negative := negative
  magnitude := nearestMagnitude num den
  magnitude_lt := Nat.lt_of_le_of_lt (nearestMagnitude_le num den) (by decide)

/-- The number of the given sign nearest to `num / den`. -/
def ofQuotient (negative : Bool) (num den : Nat) : Binary64 :=
  ofUnits negative (num * unitsPerOne) den

def ofNat (n : Nat) : Binary64 := ofQuotient false n 1
def ofInt (i : Int) : Binary64 := ofQuotient (decide (i < 0)) i.natAbs 1

theorem or_quietBit_lt {m : Nat} (h : m < 0x8000000000000000) :
    m ||| 0x8000000000000 < 0x8000000000000000 :=
  Nat.or_lt_two_pow (n := 63) h (by decide)

/-- A datum that is not a number, made quiet: bit 51 set. -/
def quiet (x : Binary64) : Binary64 where
  negative := x.negative
  magnitude := x.magnitude ||| 0x8000000000000
  magnitude_lt := or_quietBit_lt x.magnitude_lt

/-- The first operand that is not a number, made quiet; else the given result. -/
def propagate (x y result : Binary64) : Binary64 :=
  if x.isNaN then x.quiet else if y.isNaN then y.quiet else result

/-- The number nearest to a signed count of units; an exact zero is positive. -/
def ofSignedUnits (total : Int) : Binary64 := ofUnits (decide (total < 0)) total.natAbs 1

def add (x y : Binary64) : Binary64 :=
  propagate x y <|
    if x.isInfinite then (if y.isInfinite && x.negative != y.negative then invalid else x)
    else if y.isInfinite then y
    else if x.isZero && y.isZero then (if x.negative then y else x)
    else ofSignedUnits (x.signedUnits + y.signedUnits)

def sub (x y : Binary64) : Binary64 :=
  propagate x y (add x y.neg)

def mul (x y : Binary64) : Binary64 :=
  propagate x y <|
    let negative := x.negative != y.negative
    if x.isInfinite || y.isInfinite then
      (if x.isZero || y.isZero then invalid else infinity negative)
    else ofUnits negative (x.units * y.units) unitsPerOne

def div (x y : Binary64) : Binary64 :=
  propagate x y <|
    let negative := x.negative != y.negative
    if x.isInfinite then (if y.isInfinite then invalid else infinity negative)
    else if y.isInfinite then { zero with negative := negative }
    else if y.isZero then (if x.isZero then invalid else infinity negative)
    else ofUnits negative (x.units * unitsPerOne) y.units

instance : Add Binary64 := ⟨add⟩
instance : Sub Binary64 := ⟨sub⟩
instance : Mul Binary64 := ⟨mul⟩
instance : Div Binary64 := ⟨div⟩
instance : Neg Binary64 := ⟨neg⟩

/-- **The nearest whole number to the absolute value** of a finite datum, a half going up. -/
def nearestWhole (x : Binary64) : Nat := Rounding.nearestUp x.units unitsPerOne

/-- The nearest whole number, a half going away from zero. -/
def roundToInt (x : Binary64) : Int :=
  if x.negative then -(x.nearestWhole : Int) else x.nearestWhole

end Binary64
end Gradebook
