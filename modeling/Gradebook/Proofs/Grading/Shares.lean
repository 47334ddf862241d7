/-
# Shares of a score

A share of a nominal score is a product rounded twice, to a binary64 number and to a whole number of
points. Neither rounding turns an order around, so a greater ratio of a greater score earns no less,
as long as the product is finite (`Score.scale_mono`). That of a fraction is (`Score.scale_le_scale`).
One earns the nominal score exactly (`Score.scale_one`), because a score is a whole number of 32
bits, and so no fraction earns more.
-/

import Gradebook.Proofs.Binary64.Whole
import Gradebook.Proofs.Grading.Marks

namespace Gradebook

open Binary64 (unitsPerOne)

namespace Binary64

/-- **A ratio:** a finite number that is not below zero. -/
structure IsRatio (x : Binary64) : Prop where
  isFinite : x.isFinite = true
  nonneg : 0 ≤ x.numericKey

variable {x : Binary64}

theorem isRatio_iff : x.IsRatio ↔ (!x.isFinite || x.lt .zero) = false := by
  constructor
  · rintro ⟨finite, nonneg⟩
    have above : ¬ x.numericKey < zero.numericKey := Int.not_lt.2 nonneg
    simp [finite, lt, above]
  · intro accepted
    obtain ⟨finite, above⟩ := Bool.or_eq_false_iff.1 accepted
    have finite : x.isFinite = true := by simpa using finite
    rw [lt, isNaN_of_isFinite finite] at above
    exact ⟨finite, Int.not_lt.1 (of_decide_eq_false above)⟩

theorem IsRatio.signedUnits_eq (ratio : x.IsRatio) : x.signedUnits = x.units :=
  signedUnits_of_numericKey_nonneg ratio.nonneg

theorem IsRatio.value_eq (ratio : x.IsRatio) : x.value = (x.units : ℚ) / (unitsPerOne : ℚ) := by
  rw [value, ratio.signedUnits_eq, Int.cast_natCast]

theorem IsFraction.isRatio (fraction : x.IsFraction) : x.IsRatio :=
  ⟨fraction.isFinite, fraction.nonneg⟩

end Binary64

namespace Score

section

variable {x y : Binary64}

theorem toNat_round (finite : x.isFinite = true) (nonneg : 0 ≤ x.numericKey) :
    (round x).toNat = min x.nearestWhole greatest := by
  cases sign : x.negative with
  | false =>
    have small : min x.nearestWhole greatest < 2 ^ 32 :=
      Nat.lt_of_le_of_lt (Nat.min_le_right ..) (by decide)
    simp only [round, finite, sign, Bool.not_true, Bool.or_self, Bool.false_eq_true, if_false]
    exact UInt32.toNat_ofNat_of_lt' small
  | true =>
    -- The only negative datum with such an order code is a zero.
    have none : x.magnitude = 0 := by
      simp only [Binary64.numericKey, sign, if_true] at nonneg
      omega
    rw [Binary64.nearestWhole_of_isZero (decide_eq_true none), Nat.zero_min]
    simp [round, sign]

/-- **A greater number** is rounded to no fewer points. -/
theorem round_le_round (finite : y.isFinite = true) (nonneg : 0 ≤ x.numericKey)
    (le : x.numericKey ≤ y.numericKey) : round x ≤ round y := by
  have finiteX : x.isFinite = true :=
    Binary64.isFinite_of_numericKey (x := .zero) (by decide) finite nonneg le
  have sizes : x.units ≤ y.units := by
    have order := (Binary64.signedUnits_le_iff finiteX finite).2 le
    rw [Binary64.signedUnits_of_numericKey_nonneg nonneg,
      Binary64.signedUnits_of_numericKey_nonneg (nonneg.trans le)] at order
    omega
  rw [UInt32.le_iff_toNat_le, toNat_round finiteX nonneg, toNat_round finite (nonneg.trans le)]
  have whole : x.nearestWhole ≤ y.nearestWhole := Rounding.nearestUp_mono sizes _
  omega

/-- A number of points is its own rounding. -/
theorem round_of_units_eq (finite : x.isFinite = true) (nonneg : 0 ≤ x.numericKey)
    {nominal : Score} (same : x.units = nominal.toNat * unitsPerOne) : round x = nominal := by
  have points := toNat_round finite nonneg
  rw [Binary64.nearestWhole, same, Rounding.nearestUp_mul _ Binary64.unitsPerOne_pos] at points
  have most := nominal.toNat_lt
  refine UInt32.toNat_inj.1 (points.trans ?_)
  unfold greatest
  omega

end

/-! ## Points as numbers -/

theorem isWhole_toNat (nominal : Score) :
    (Binary64.ofNat nominal.toNat).IsWhole nominal.toNat :=
  Binary64.isWhole_ofNat (nominal.toNat_lt.le.trans (by decide))

theorem isFinite_toNat (nominal : Score) : (Binary64.ofNat nominal.toNat).isFinite = true :=
  (isWhole_toNat nominal).isFinite

theorem units_toNat (nominal : Score) :
    (Binary64.ofNat nominal.toNat).units = nominal.toNat * unitsPerOne :=
  (isWhole_toNat nominal).units

theorem signedUnits_toNat (nominal : Score) :
    (Binary64.ofNat nominal.toNat).signedUnits = (nominal.toNat * unitsPerOne : Nat) := by
  rw [← units_toNat]
  rfl

/-! ## Ratios of a score -/

variable {r s : Binary64}

section

variable (ratioR : r.IsRatio)

include ratioR

theorem numericKey_mul_ratio (nominal : Score) :
    (Binary64.ofNat nominal.toNat * r).numericKey =
      Binary64.nearestMagnitude (nominal.toNat * unitsPerOne * r.units) unitsPerOne := by
  rw [Binary64.numericKey_mul (isFinite_toNat nominal) ratioR.isFinite, signedUnits_toNat,
    ratioR.signedUnits_eq, ← Int.natCast_mul, Binary64.nearestKey_natCast]

theorem magnitude_mul_ratio (nominal : Score) :
    (Binary64.ofNat nominal.toNat * r).magnitude =
      Binary64.nearestMagnitude (nominal.toNat * unitsPerOne * r.units) unitsPerOne := by
  have key := numericKey_mul_ratio ratioR nominal
  have size := Binary64.natAbs_numericKey (Binary64.ofNat nominal.toNat * r)
  omega

/-- **A greater ratio of a greater score** is no fewer points, as long as the product is finite. -/
theorem scale_mono (ratioS : s.IsRatio) (le : r.numericKey ≤ s.numericKey) {m n : Score}
    (size : m ≤ n) (finite : (Binary64.ofNat n.toNat * s).isFinite = true) :
    m.scale r ≤ n.scale s := by
  have keyR := numericKey_mul_ratio ratioR m
  have keyS := numericKey_mul_ratio ratioS n
  refine round_le_round finite (by omega) ?_
  have sizes : r.units ≤ s.units := by
    have order := (Binary64.signedUnits_le_iff ratioR.isFinite ratioS.isFinite).2 le
    rw [ratioR.signedUnits_eq, ratioS.signedUnits_eq] at order
    exact Int.ofNat_le.1 order
  have points : m.toNat * unitsPerOne ≤ n.toNat * unitsPerOne :=
    Nat.mul_le_mul_right _ (UInt32.le_iff_toNat_le.1 size)
  rw [keyR, keyS]
  exact Int.ofNat_le.2 <| Binary64.nearestMagnitude_mono Binary64.unitsPerOne_pos
    Binary64.unitsPerOne_pos (Nat.mul_le_mul_right _ (Nat.mul_le_mul points sizes))

end

/-! ## Fractions of a score -/

section

variable (fractionR : r.IsFraction)

include fractionR

theorem isFinite_mul_fraction (nominal : Score) :
    (Binary64.ofNat nominal.toNat * r).isFinite = true := by
  have finite := Binary64.isFinite_iff.1 (isFinite_toNat nominal)
  have most : nominal.toNat * unitsPerOne * r.units ≤
      Binary64.unitsOf (Binary64.ofNat nominal.toNat).magnitude * unitsPerOne := by
    show _ ≤ (Binary64.ofNat nominal.toNat).units * unitsPerOne
    rw [units_toNat]
    exact Nat.mul_le_mul_left _ fractionR.units_le
  have below := Binary64.nearestMagnitude_le_of_le finite Binary64.unitsPerOne_pos most
  rw [Binary64.isFinite_iff, magnitude_mul_ratio fractionR.isRatio]
  exact below.trans_lt finite

/-- **A greater fraction** of a score is no fewer points. -/
theorem scale_le_scale (fractionS : s.IsFraction) (le : r.numericKey ≤ s.numericKey)
    (nominal : Score) : nominal.scale r ≤ nominal.scale s :=
  scale_mono fractionR.isRatio fractionS.isRatio le (UInt32.le_refl _)
    (isFinite_mul_fraction fractionS nominal)

end

/-- **The whole of a score.** -/
theorem scale_one (nominal : Score) : nominal.scale .one = nominal := by
  have fraction := Binary64.isFraction_one
  have key := numericKey_mul_ratio fraction.isRatio nominal
  have own : Binary64.nearestMagnitude (nominal.toNat * unitsPerOne * Binary64.one.units)
      unitsPerOne = (Binary64.ofNat nominal.toNat).magnitude := by
    rw [← units_toNat, Binary64.units, Binary64.units, Binary64.unitsOf_one]
    exact Binary64.nearestMagnitude_unitsOf (Binary64.isFinite_iff.1 (isFinite_toNat nominal))
      Binary64.unitsPerOne_pos
  have same : (Binary64.ofNat nominal.toNat * .one).units = nominal.toNat * unitsPerOne := by
    rw [Binary64.units, magnitude_mul_ratio fraction.isRatio, own]
    exact units_toNat nominal
  exact round_of_units_eq (isFinite_mul_fraction fraction nominal) (by omega) same

/-- **No fraction of a score** is more than it. -/
theorem scale_le (fraction : r.IsFraction) (nominal : Score) : nominal.scale r ≤ nominal := by
  have most := scale_le_scale fraction Binary64.isFraction_one fraction.le_one nominal
  rwa [scale_one] at most

end Score
end Gradebook
