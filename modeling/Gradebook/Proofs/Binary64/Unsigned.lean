/-
# Numbers without a minus sign

Sums and products of numbers without a minus sign have none, infinity included: the two operations
whose result is not a number, infinity minus infinity and infinity times zero, do not come up as
long as the factors are neither. The exact value of a finite one is its units over those in one, and
its nearest whole number is the floor of the value and a half.
-/

import Gradebook.Decimal.Reading
import Gradebook.Proofs.Binary64.Order
import Mathlib.Data.Rat.Floor

namespace Gradebook
namespace Binary64

/-- **A number without a minus sign,** infinity included. -/
structure IsUnsigned (x : Binary64) : Prop where
  number : x.isNaN = false
  sign : x.negative = false

variable {x y : Binary64}

theorem cast_unitsPerOne_pos : (0 : ℚ) < unitsPerOne := Nat.cast_pos.2 unitsPerOne_pos

theorem isUnsigned_zero : zero.IsUnsigned := ⟨by decide, rfl⟩

theorem isUnsigned_infinity : (infinity false).IsUnsigned := ⟨by decide, rfl⟩

theorem isUnsigned_ofUnits (num den : Nat) : (ofUnits false num den).IsUnsigned :=
  ⟨isNaN_eq_false_iff.2 (nearestMagnitude_le num den), rfl⟩

theorem isUnsigned_ofNat (n : Nat) : (ofNat n).IsUnsigned := isUnsigned_ofUnits ..

/-- The number nearest to a decimal. -/
theorem isUnsigned_ofDecimal (d : Decimal) : (ofDecimal false d).IsUnsigned := by
  unfold ofDecimal
  split
  · exact isUnsigned_zero
  · dsimp only
    split
    · exact isUnsigned_infinity
    · split
      · exact isUnsigned_zero
      · exact isUnsigned_ofUnits ..

namespace IsUnsigned

variable (unsignedX : x.IsUnsigned) (unsignedY : y.IsUnsigned)

include unsignedX

theorem signedUnits_eq : x.signedUnits = x.units := by
  rw [signedUnits, unsignedX.sign]
  rfl

theorem value_eq : x.value = (x.units : ℚ) / (unitsPerOne : ℚ) := by
  rw [value, unsignedX.signedUnits_eq, Int.cast_natCast]

include unsignedY

theorem add : (x + y).IsUnsigned := by
  show (Binary64.add x y).IsUnsigned
  rw [Binary64.add, propagate_of_isNaN_eq_false unsignedX.number unsignedY.number]
  split
  · rw [unsignedX.sign, unsignedY.sign]
    simpa using unsignedX
  · split
    · exact unsignedY
    · split
      · rw [unsignedX.sign]
        simpa using unsignedX
      · rw [unsignedX.signedUnits_eq, unsignedY.signedUnits_eq, ofSignedUnits,
          decide_eq_false (by omega)]
        exact isUnsigned_ofUnits ..

/-- The product with a finite number that is not zero. -/
theorem mul (finite : y.isFinite = true) (some : y.isZero = false) : (x * y).IsUnsigned := by
  show (Binary64.mul x y).IsUnsigned
  rw [Binary64.mul, propagate_of_isNaN_eq_false unsignedX.number unsignedY.number, unsignedX.sign,
    unsignedY.sign, isInfinite_of_isFinite finite, some]
  dsimp only
  split
  · next infinite =>
    have nonzero : x.isZero = false := by
      have above : x.magnitude = infinityMagnitude := by simpa [isInfinite] using infinite
      simp [isZero, above, infinityMagnitude]
    rw [nonzero]
    exact isUnsigned_infinity
  · exact isUnsigned_ofUnits ..

end IsUnsigned

/-- **The nearest whole number** is the floor of the value and a half. -/
theorem IsUnsigned.roundToInt_eq (unsigned : x.IsUnsigned) : x.roundToInt = ⌊x.value + 1 / 2⌋ := by
  have pos := cast_unitsPerOne_pos.ne'
  have fraction : x.value + 1 / 2 =
      ((2 * x.units + unitsPerOne : Nat) : Int) / ((2 * unitsPerOne : Nat) : ℚ) := by
    rw [unsigned.value_eq]
    push_cast
    field_simp
  rw [fraction, Rat.floor_intCast_div_natCast, roundToInt, unsigned.sign]
  rfl

end Binary64
end Gradebook
