/-
# Binary64 numbers as sign and magnitude

A datum is a sign and the 63 bits below it, its *magnitude*. Among finite data the
magnitude is an order-preserving code of the absolute value:

| magnitude `m` | datum |
| --- | --- |
| `m < 2 ^ 52` | zero or subnormal, `m` units |
| `2 ^ 52 ≤ m < 2047 * 2 ^ 52` | normal, `(2 ^ 52 + m % 2 ^ 52) * 2 ^ (m / 2 ^ 52 - 1)` units |
| `m = 2047 * 2 ^ 52` | infinity |
| `2047 * 2 ^ 52 < m` | not a number |

The magnitudes of one power of two, `2 ^ 52` of them, are a *binade*.

One *unit* is `2 ^ -1074`, the least positive value, so every finite absolute value is a
natural number of units and all arithmetic can be done exactly on naturals before it is
rounded once.

Equality of data is equality of bits. The arithmetic comparisons, which identify the two
zeros and fail on every datum that is not a number, are `numericEq`, `lt` and `le`; the
order of all bit patterns is `totalKey`.
-/

namespace Gradebook

/-- A binary64 datum: a sign bit and the 63 bits below it. -/
structure Binary64 where
  negative : Bool
  magnitude : Nat
  magnitude_lt : magnitude < 0x8000000000000000 := by decide
deriving DecidableEq

namespace Binary64

/-- How many magnitudes a binade has. -/
def binade : Nat := 0x10000000000000

/-- The magnitude of the two infinities. -/
def infinityMagnitude : Nat := 0x7FF0000000000000

/-- Units in one: the number of times `2 ^ -1074` goes into `1`. -/
def unitsPerOne : Nat := Nat.pow 2 1074

def zero : Binary64 := { negative := false, magnitude := 0 }
def one : Binary64 := { negative := false, magnitude := 0x3FF0000000000000 }
def infinity (negative : Bool) : Binary64 :=
  { negative := negative, magnitude := 0x7FF0000000000000 }

/-- The quiet positive datum that is not a number. -/
def notANumber : Binary64 := { negative := false, magnitude := 0x7FF8000000000000 }

/-- What an operation without a result delivers, such as infinity times zero: quiet, and with
the sign bit set. -/
def invalid : Binary64 := { negative := true, magnitude := 0x7FF8000000000000 }

instance : Inhabited Binary64 := ⟨zero⟩

def isNaN (x : Binary64) : Bool := infinityMagnitude < x.magnitude
def isInfinite (x : Binary64) : Bool := x.magnitude = infinityMagnitude
def isFinite (x : Binary64) : Bool := x.magnitude < infinityMagnitude
def isZero (x : Binary64) : Bool := x.magnitude = 0

/-- The absolute value, in units, that a finite magnitude encodes. -/
def unitsOf (magnitude : Nat) : Nat :=
  if magnitude < binade then magnitude
  else (binade + magnitude % binade) * Nat.pow 2 (magnitude / binade - 1)

def units (x : Binary64) : Nat := unitsOf x.magnitude

/-- The exact value of a finite datum in units, with its sign. -/
def signedUnits (x : Binary64) : Int := if x.negative then -(x.units : Int) else x.units

/-- **The exact rational value** of a finite datum. -/
def value (x : Binary64) : Rat := (x.signedUnits : Rat) / (unitsPerOne : Rat)

def neg (x : Binary64) : Binary64 := { x with negative := !x.negative }

/-! ## Bits -/

/-- The datum with the given 64 bits. -/
def ofBits (bits : UInt64) : Binary64 where
  negative := decide (0x8000000000000000 ≤ bits.toNat)
  magnitude := bits.toNat % 0x8000000000000000
  magnitude_lt := Nat.mod_lt _ (by decide)

/-- The 64 bits of a datum. -/
def toBits (x : Binary64) : UInt64 :=
  UInt64.ofNat ((if x.negative then 0x8000000000000000 else 0) + x.magnitude)

/-! ## Order -/

/-- The order code of a number: its magnitude with its sign, the same for both zeros. -/
def numericKey (x : Binary64) : Int := if x.negative then -(x.magnitude : Int) else x.magnitude

def numericEq (x y : Binary64) : Bool := !x.isNaN && !y.isNaN && x.numericKey = y.numericKey
def lt (x y : Binary64) : Bool := !x.isNaN && !y.isNaN && decide (x.numericKey < y.numericKey)
def le (x y : Binary64) : Bool := !x.isNaN && !y.isNaN && decide (x.numericKey ≤ y.numericKey)

/-- **The order code of a bit pattern.** Negative data come first, the larger magnitude the
earlier; so the order is negative not-a-number, minus infinity, ..., `-0`, `0`, ...,
infinity, positive not-a-number. -/
def totalKey (x : Binary64) : Int := if x.negative then -(x.magnitude : Int) - 1 else x.magnitude

/-- The total order of bit patterns. -/
def totalCompare (x y : Binary64) : Ordering := compare x.totalKey y.totalKey

/-- The greater of two numbers; a datum that is not a number gives way to the other. -/
def max (x y : Binary64) : Binary64 :=
  if x.isNaN then y else if y.isNaN then x else if x.lt y then y else x

theorem totalKey_injective {x y : Binary64} (h : x.totalKey = y.totalKey) : x = y := by
  obtain ⟨nx, mx, hx⟩ := x
  obtain ⟨ny, my, hy⟩ := y
  have signs : nx = ny := by cases nx <;> cases ny <;> simp [totalKey] at h ⊢ <;> omega
  subst signs
  have magnitudes : mx = my := by cases nx <;> simp [totalKey] at h <;> omega
  subst magnitudes
  rfl

end Binary64
end Gradebook
