/-
# Whole numbers

The whole numbers up to `2 ^ 53` are binary64 numbers, so a sum or a product of such numbers that
stays within that bound is not rounded at all (`IsWhole.add`, `IsWhole.mul`). Beyond the bound not
every whole number is a binary64 number, but the one nearest to a binary64 number always is
(`isWhole_ofNat_nearestWhole`): from `2 ^ 52` on there are no numbers between the whole ones.
-/

import Gradebook.Proofs.Binary64.Interpolation
import Gradebook.Proofs.Binary64.Unsigned

namespace Gradebook
namespace Binary64

/-- **A whole number,** without a minus sign. -/
structure IsWhole (x : Binary64) (n : Nat) : Prop where
  isFinite : x.isFinite = true
  sign : x.negative = false
  units : x.units = n * unitsPerOne

section

variable {m n num den : Nat} {x y : Binary64}

/-- The whole numbers of 53 binary places, and the one after them. -/
theorem exists_unitsOf_eq_whole (few : n ≤ 2 ^ 53) :
    ∃ m < infinityMagnitude, unitsOf m = n * unitsPerOne := by
  rcases Nat.lt_or_eq_of_le few with less | rfl
  · obtain ⟨m, finite, same⟩ := exists_unitsOf_eq (n := n) (e := 1021 + 53)
      (by rw [binade_eq]; omega) (by decide)
    exact ⟨m, finite, by rw [same, unitsPerOne_eq_two_pow]⟩
  · obtain ⟨m, finite, same⟩ := exists_unitsOf_eq (n := 2 ^ 52) (e := 1021 + 53 + 1)
      (by decide) (by decide)
    have double (e : Nat) : 2 ^ 52 * 2 ^ (e + 1) = 2 ^ 53 * 2 ^ e := by ring
    exact ⟨m, finite, by rw [same, unitsPerOne_eq_two_pow, double]⟩

/-- A quotient that is the absolute value of a finite magnitude is not rounded. -/
theorem isWhole_ofUnits_of_unitsOf_eq (finite : m < infinityMagnitude)
    (same : unitsOf m = n * unitsPerOne) (pos : 0 < den) :
    (ofUnits false (n * unitsPerOne * den) den).IsWhole n := by
  have own : nearestMagnitude (n * unitsPerOne * den) den = m := by
    rw [← same]
    exact nearestMagnitude_unitsOf finite pos
  refine ⟨isFinite_iff.2 (own.trans_lt finite), rfl, ?_⟩
  show unitsOf (nearestMagnitude (n * unitsPerOne * den) den) = _
  rw [own, same]

theorem isWhole_ofUnits (few : n ≤ 2 ^ 53) (pos : 0 < den) :
    (ofUnits false (n * unitsPerOne * den) den).IsWhole n := by
  obtain ⟨m, finite, same⟩ := exists_unitsOf_eq_whole few
  exact isWhole_ofUnits_of_unitsOf_eq finite same pos

/-- **Whole numbers up to `2 ^ 53`** are exact. -/
theorem isWhole_ofNat (few : n ≤ 2 ^ 53) : (ofNat n).IsWhole n := by
  have whole := isWhole_ofUnits few Nat.one_pos
  rwa [Nat.mul_one] at whole

theorem isWhole_zero : zero.IsWhole 0 :=
  ⟨by decide, rfl, by rw [Nat.zero_mul]; exact units_of_isZero rfl⟩

namespace IsWhole

variable (wholeX : x.IsWhole m) (wholeY : y.IsWhole n)

include wholeX

theorem isUnsigned : x.IsUnsigned := ⟨isNaN_of_isFinite wholeX.isFinite, wholeX.sign⟩

theorem value_eq : x.value = m := by
  rw [wholeX.isUnsigned.value_eq, wholeX.units, Nat.cast_mul]
  exact mul_div_cancel_right₀ _ cast_unitsPerOne_pos.ne'

theorem roundToInt_eq : x.roundToInt = m := by
  rw [roundToInt, wholeX.sign, nearestWhole, wholeX.units,
    Rounding.nearestUp_mul m unitsPerOne_pos]
  rfl

include wholeY

/-- **A product within the bound** is exact. -/
theorem mul (few : m * n ≤ 2 ^ 53) : (x * y).IsWhole (m * n) := by
  have exact : m * unitsPerOne * (n * unitsPerOne) = m * n * unitsPerOne * unitsPerOne := by ring
  rw [mul_of_isFinite wholeX.isFinite wholeY.isFinite, wholeX.sign, wholeY.sign, wholeX.units,
    wholeY.units, exact]
  exact isWhole_ofUnits few unitsPerOne_pos

/-- **A sum within the bound** is exact. -/
theorem add (few : m + n ≤ 2 ^ 53) : (x + y).IsWhole (m + n) := by
  rw [add_of_isFinite wholeX.isFinite wholeY.isFinite]
  split
  · next zeros =>
    -- The sum of two zeros is one of them.
    obtain ⟨noneX, noneY⟩ := Bool.and_eq_true_iff.1 zeros
    have some := unitsPerOne_pos
    have unitsX := wholeX.units
    rw [units_of_isZero noneX, eq_comm, Nat.mul_eq_zero, or_iff_left some.ne'] at unitsX
    rw [wholeX.sign, unitsX, Nat.zero_add]
    have unitsY := wholeY.units
    rw [units_of_isZero noneY, eq_comm, Nat.mul_eq_zero, or_iff_left some.ne'] at unitsY
    subst unitsX unitsY
    exact wholeX
  · have exact : x.signedUnits + y.signedUnits = ((m + n) * unitsPerOne * 1 : Nat) := by
      rw [wholeX.isUnsigned.signedUnits_eq, wholeY.isUnsigned.signedUnits_eq, wholeX.units,
        wholeY.units]
      push_cast
      ring
    rw [exact, ofSignedUnits, decide_eq_false (by omega), Int.natAbs_natCast]
    exact isWhole_ofUnits few Nat.one_pos

/-- **Whole numbers are compared** as what they are. -/
theorem le_iff : x.le y = true ↔ m ≤ n := by
  have order := signedUnits_le_iff wholeX.isFinite wholeY.isFinite
  rw [wholeX.isUnsigned.signedUnits_eq, wholeY.isUnsigned.signedUnits_eq, wholeX.units,
    wholeY.units, Int.ofNat_le, Nat.mul_le_mul_right_iff unitsPerOne_pos] at order
  rw [Binary64.le_iff, ← order, isNaN_of_isFinite wholeX.isFinite, isNaN_of_isFinite wholeY.isFinite]
  simp

end IsWhole

/-! ## The nearest whole number -/

/-- From `2 ^ 52` on the numbers are whole. -/
theorem unitsPerOne_dvd_units (large : (1021 + 54) * binade ≤ x.magnitude) :
    unitsPerOne ∣ x.units := by
  rw [unitsPerOne_eq_two_pow]
  exact two_pow_dvd_unitsOf large

theorem nearestWhole_of_isZero (none : x.isZero = true) : x.nearestWhole = 0 := by
  rw [nearestWhole, units_of_isZero none]
  simpa using Rounding.nearestUp_mul 0 unitsPerOne_pos

theorem IsUnsigned.nearestWhole_eq (unsigned : x.IsUnsigned) :
    (x.nearestWhole : ℤ) = ⌊x.value + 1 / 2⌋ := by
  rw [← unsigned.roundToInt_eq, roundToInt, unsigned.sign]
  rfl

/-- **The whole number nearest to a number** is a number. -/
theorem isWhole_ofNat_nearestWhole (finite : x.isFinite = true) :
    (ofNat x.nearestWhole).IsWhole x.nearestWhole := by
  rcases Nat.lt_or_ge x.magnitude ((1021 + 54) * binade) with small | large
  · have bound : unitsOf ((1021 + 54) * binade) = 2 ^ 52 * unitsPerOne := by decide +kernel
    have units : x.units ≤ 2 ^ 52 * unitsPerOne := by
      rw [← bound]
      exact unitsOf_le_unitsOf (by decide) small.le
    have few : x.nearestWhole ≤ 2 ^ 52 :=
      (Rounding.nearestUp_mono units unitsPerOne).trans_eq
        (Rounding.nearestUp_mul _ unitsPerOne_pos)
    exact isWhole_ofNat (few.trans (by decide))
  · obtain ⟨n, same⟩ := unitsPerOne_dvd_units large
    rw [Nat.mul_comm] at same
    have own : x.nearestWhole = n := by
      rw [nearestWhole, same, Rounding.nearestUp_mul n unitsPerOne_pos]
    have whole := isWhole_ofUnits_of_unitsOf_eq (isFinite_iff.1 finite) same Nat.one_pos
    rw [own]
    rwa [Nat.mul_one] at whole

end

end Binary64
end Gradebook
