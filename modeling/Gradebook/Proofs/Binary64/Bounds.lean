/-
# Results that stay within a bound

A number is within a bound if it is finite and has no more units than the bound. Rounding does not
cross the absolute value of a finite number, so where the exact sum, product or quotient of finite
numbers is within such a bound the result is too (`within_add`, `within_mul`, `within_div`). The
other way round no operation makes a finite number from an operand that is not finite, an infinite
divisor aside.
-/

import Gradebook.Proofs.Binary64.Rounding

namespace Gradebook
namespace Binary64

/-! ## Kinds of data -/

section

variable {x y : Binary64}

theorem isFinite_iff : x.isFinite = true ↔ x.magnitude < infinityMagnitude := by
  simp [isFinite]

theorem isFinite_eq_false_iff : x.isFinite = false ↔ infinityMagnitude ≤ x.magnitude := by
  simp [isFinite]

theorem isNaN_of_isFinite (finite : x.isFinite = true) : x.isNaN = false := by
  have below := isFinite_iff.1 finite
  simp only [isNaN, decide_eq_false_iff_not]
  omega

theorem isInfinite_of_isFinite (finite : x.isFinite = true) : x.isInfinite = false := by
  have below := isFinite_iff.1 finite
  simp only [isInfinite, decide_eq_false_iff_not]
  omega

/-- What is not finite is infinite or not a number. -/
theorem isInfinite_or_isNaN (extreme : x.isFinite = false) :
    x.isInfinite = true ∨ x.isNaN = true := by
  have above := isFinite_eq_false_iff.1 extreme
  simp only [isInfinite, isNaN, decide_eq_true_eq]
  omega

theorem isFinite_quiet (isNaN : x.isNaN = true) : x.quiet.isFinite = false := by
  have above : infinityMagnitude < x.magnitude := of_decide_eq_true isNaN
  have more : x.magnitude ≤ x.quiet.magnitude := Nat.left_le_or
  rw [isFinite_eq_false_iff]
  omega

theorem units_of_isZero (none : x.isZero = true) : x.units = 0 := by
  have zero : x.magnitude = 0 := of_decide_eq_true none
  rw [units, zero, unitsOf_of_lt_binade (by decide)]

theorem isZero_of_units_pos (some : 0 < x.units) : x.isZero = false := by
  by_contra none
  rw [Bool.not_eq_false] at none
  rw [units_of_isZero none] at some
  omega

end

/-! ## Operations on finite numbers -/

section

variable {x y : Binary64} (finiteX : x.isFinite = true) (finiteY : y.isFinite = true)

include finiteX finiteY

theorem propagate_of_isFinite (result : Binary64) : propagate x y result = result := by
  rw [propagate, isNaN_of_isFinite finiteX, isNaN_of_isFinite finiteY]
  rfl

theorem mul_of_isFinite :
    x * y = ofUnits (x.negative != y.negative) (x.units * y.units) unitsPerOne := by
  show mul x y = _
  rw [mul, propagate_of_isFinite finiteX finiteY]
  simp only [isInfinite_of_isFinite finiteX, isInfinite_of_isFinite finiteY, Bool.or_self,
    Bool.false_eq_true, if_false]

theorem div_of_isFinite (some : 0 < y.units) :
    x / y = ofUnits (x.negative != y.negative) (x.units * unitsPerOne) y.units := by
  show div x y = _
  rw [div, propagate_of_isFinite finiteX finiteY]
  simp only [isInfinite_of_isFinite finiteX, isInfinite_of_isFinite finiteY,
    isZero_of_units_pos some, Bool.false_eq_true, if_false]

/-- A sum is one of its terms if both are zero, and else the exact sum rounded. -/
theorem add_of_isFinite :
    x + y = (if x.isZero && y.isZero then (if x.negative then y else x)
      else ofSignedUnits (x.signedUnits + y.signedUnits)) := by
  show add x y = _
  rw [add, propagate_of_isFinite finiteX finiteY]
  simp only [isInfinite_of_isFinite finiteX, isInfinite_of_isFinite finiteY, Bool.false_eq_true,
    if_false]

end

/-! ## Bounds -/

/-- **A finite number of at most so many units.** -/
def Within (x : Binary64) (bound : Nat) : Prop := x.isFinite = true ∧ x.units ≤ bound

/-- A bound that is the absolute value of a finite magnitude. -/
def IsBound (bound : Nat) : Prop := ∃ m < infinityMagnitude, unitsOf m = bound

section

variable {x y : Binary64} {bound : Nat}

/-- Rounding does not cross a bound. -/
theorem within_ofUnits (isBound : IsBound bound) {num den : Nat} (pos : 0 < den)
    (h : num ≤ bound * den) (negative : Bool) : (ofUnits negative num den).Within bound := by
  obtain ⟨m, finite, rfl⟩ := isBound
  have below : (ofUnits negative num den).magnitude ≤ m := nearestMagnitude_le_of_le finite pos h
  exact ⟨isFinite_iff.2 (below.trans_lt finite), unitsOf_le_unitsOf finite below⟩

theorem within_zero (bound : Nat) : zero.Within bound :=
  ⟨by decide, by rw [units_of_isZero (by decide)]; exact Nat.zero_le _⟩

theorem natAbs_signedUnits (x : Binary64) : x.signedUnits.natAbs = x.units := by
  unfold signedUnits
  split <;> simp

theorem within_ofSignedUnits (isBound : IsBound bound) {total : Int}
    (h : total.natAbs ≤ bound) : (ofSignedUnits total).Within bound :=
  within_ofUnits isBound Nat.one_pos (by omega) _

theorem unitsPerOne_pos : 0 < unitsPerOne := by decide +kernel

theorem within_mul (isBound : IsBound bound) (finiteX : x.isFinite = true)
    (finiteY : y.isFinite = true) (h : x.units * y.units ≤ bound * unitsPerOne) :
    (x * y).Within bound := by
  rw [mul_of_isFinite finiteX finiteY]
  exact within_ofUnits isBound unitsPerOne_pos h _

theorem within_div (isBound : IsBound bound) (finiteX : x.isFinite = true)
    (finiteY : y.isFinite = true) (some : 0 < y.units)
    (h : x.units * unitsPerOne ≤ bound * y.units) : (x / y).Within bound := by
  rw [div_of_isFinite finiteX finiteY some]
  exact within_ofUnits isBound some h _

theorem within_add (isBound : IsBound bound) (finiteX : x.isFinite = true)
    (finiteY : y.isFinite = true) (h : x.units + y.units ≤ bound) : (x + y).Within bound := by
  rw [add_of_isFinite finiteX finiteY]
  split
  · split
    · exact ⟨finiteY, by omega⟩
    · exact ⟨finiteX, by omega⟩
  · refine within_ofSignedUnits isBound ?_
    have triangle := Int.natAbs_add_le x.signedUnits y.signedUnits
    rw [natAbs_signedUnits, natAbs_signedUnits] at triangle
    omega

/-! ## Whole numbers -/

theorem within_ofNat (isBound : IsBound bound) {n : Nat} (h : n * unitsPerOne ≤ bound) :
    (ofNat n).Within bound :=
  within_ofUnits isBound Nat.one_pos (by omega) _

theorem unitsOf_one : unitsOf one.magnitude = unitsPerOne := by decide +kernel

/-- A positive whole number is at least one. -/
theorem one_le_magnitude_ofNat {n : Nat} (pos : 0 < n) : one.magnitude ≤ (ofNat n).magnitude := by
  refine le_nearestMagnitude_of_le (by decide) Nat.one_pos ?_
  rw [unitsOf_one, Nat.mul_one]
  exact Nat.le_mul_of_pos_left _ pos

theorem unitsPerOne_le_units_ofNat {n : Nat} (pos : 0 < n)
    (finite : (ofNat n).isFinite = true) : unitsPerOne ≤ (ofNat n).units := by
  rw [← unitsOf_one]
  exact unitsOf_le_unitsOf (isFinite_iff.1 finite) (one_le_magnitude_ofNat pos)

theorem isNaN_ofNat (n : Nat) : (ofNat n).isNaN = false := by
  have below : (ofNat n).magnitude ≤ infinityMagnitude := nearestMagnitude_le ..
  simp only [isNaN, decide_eq_false_iff_not]
  omega

/-- **A whole number is positive as a number if it is positive.** -/
theorem zero_lt_ofNat {n : Nat} (pos : 0 < n) : zero.lt (ofNat n) = true := by
  have one := one_le_magnitude_ofNat pos
  have some : 0 < (ofNat n).magnitude := Nat.lt_of_lt_of_le (by decide) one
  have key : (ofNat n).numericKey = (ofNat n).magnitude := rfl
  rw [lt, isNaN_ofNat, key]
  simp only [Bool.not_false, Bool.and_true, Bool.and_eq_true, decide_eq_true_eq]
  exact ⟨rfl, Int.natCast_pos.2 some⟩

end

/-! ## What is not finite stays so -/

section

variable {x y : Binary64}

theorem isFinite_propagate {result : Binary64}
    (h : x.isNaN = false → y.isNaN = false → result.isFinite = false) :
    (propagate x y result).isFinite = false := by
  unfold propagate
  split
  · next isNaN => exact isFinite_quiet isNaN
  · next number =>
    split
    · next isNaN => exact isFinite_quiet isNaN
    · next number' =>
      rw [Bool.not_eq_true] at number number'
      exact h number number'

theorem isInfinite_of_number (extreme : x.isFinite = false) (number : x.isNaN = false) :
    x.isInfinite = true := by
  rcases isInfinite_or_isNaN extreme with infinite | isNaN
  · exact infinite
  · rw [number] at isNaN
    cases isNaN

theorem isFinite_infinity (negative : Bool) : (infinity negative).isFinite = false := by
  cases negative <;> decide

theorem isFinite_invalid : invalid.isFinite = false := by decide

theorem isFinite_mul_left (extreme : x.isFinite = false) (y : Binary64) :
    (x * y).isFinite = false := by
  refine isFinite_propagate fun number _ => ?_
  simp only [isInfinite_of_number extreme number, Bool.true_or, if_true]
  split
  · exact isFinite_invalid
  · exact isFinite_infinity _

theorem isFinite_mul_right (x : Binary64) (extreme : y.isFinite = false) :
    (x * y).isFinite = false := by
  refine isFinite_propagate fun _ number => ?_
  simp only [isInfinite_of_number extreme number, Bool.or_true, if_true]
  split
  · exact isFinite_invalid
  · exact isFinite_infinity _

theorem isFinite_div_left (extreme : x.isFinite = false) (y : Binary64) :
    (x / y).isFinite = false := by
  refine isFinite_propagate fun number _ => ?_
  simp only [isInfinite_of_number extreme number, if_true]
  split
  · exact isFinite_invalid
  · exact isFinite_infinity _

theorem isFinite_add_left (extreme : x.isFinite = false) (y : Binary64) :
    (x + y).isFinite = false := by
  refine isFinite_propagate fun number _ => ?_
  simp only [isInfinite_of_number extreme number, if_true]
  split
  · exact isFinite_invalid
  · exact extreme

theorem isFinite_add_right (x : Binary64) (extreme : y.isFinite = false) :
    (x + y).isFinite = false := by
  refine isFinite_propagate fun _ number => ?_
  simp only [isInfinite_of_number extreme number, if_true]
  split
  · split
    · exact isFinite_invalid
    · next infinite _ =>
      have above := of_decide_eq_true infinite
      exact isFinite_eq_false_iff.2 above.ge
  · exact extreme

end

end Binary64
end Gradebook
