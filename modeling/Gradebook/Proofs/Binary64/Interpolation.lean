/-
# Falling from one to a floor

`(1 - e) + f * e` falls from one to `f` as `e` goes from zero to one. In exact arithmetic it lies
between the two, and with its three roundings it still does (`interpolation_between`).

Write `a` for the rounded `1 - e` and `b` for the rounded `f * e`. Above one the numbers are so far
apart that `a + b` is rounded to one, since `b ≤ e` and `a` is off by half a place at most. Below,
there are two cases.

| `f` | why `a + b` is rounded to no less than `f` |
| --- | --- |
| one | `b = e`, and `a + e` is half a place below one at most |
| less | `f - a` is a number itself, and it is no more than `f * e`, so `b ≥ f - a` |

A place is the spacing of the numbers between a half and one, `2 ^ -53`.
-/

import Gradebook.Proofs.Binary64.Order

namespace Gradebook
namespace Binary64

/-- **A fraction:** a number between zero and one. -/
structure IsFraction (x : Binary64) : Prop where
  nonneg : 0 ≤ x.numericKey
  le_one : x.numericKey ≤ one.numericKey

/-! ## Places -/

/-- Half of `2 ^ -53`, in units. -/
def halfPlace : Nat := Nat.pow 2 1020

theorem two_pow_le_two_mul_halfPlace {k : Nat} (le : k ≤ 1021) : 2 ^ k ≤ 2 * halfPlace :=
  calc 2 ^ k ≤ 2 ^ 1021 := Nat.pow_le_pow_right (by decide) le
    _ = 2 * halfPlace := by decide +kernel

theorem unitsPerOne_eq_two_pow : unitsPerOne = 2 ^ (1021 + 53) := by decide +kernel

theorem unitsPerOne_eq_mul : unitsPerOne = 2 ^ 53 * 2 ^ 1021 := by decide +kernel

/-- Half a place above one and half a place below it are rounded to one, which is even. -/
theorem nearestMagnitude_near_one :
    nearestMagnitude (unitsPerOne + halfPlace) 1 = one.magnitude ∧
      nearestMagnitude (unitsPerOne - halfPlace) 1 = one.magnitude := by decide +kernel

/-- The greatest number below one. -/
theorem unitsOf_below_one : unitsOf (one.magnitude - 1) + 2 * halfPlace = unitsPerOne := by
  decide +kernel

/-- The magnitude of one half. -/
theorem unitsOf_half : 2 * unitsOf ((1021 + 1) * binade) = unitsPerOne := by decide +kernel

theorem binades_le_of_half {m : Nat} (half : unitsPerOne ≤ 2 * unitsOf m) :
    (1021 + 1) * binade ≤ m := by
  by_contra below
  have lower := unitsOf_le_unitsOf (by decide : (1021 + 1) * binade - 1 < infinityMagnitude)
    (by omega : m ≤ (1021 + 1) * binade - 1)
  have less : 2 * unitsOf ((1021 + 1) * binade - 1) < unitsPerOne := by decide +kernel
  omega

/-- Magnitudes of so many binades are whole numbers of their least spacing. -/
theorem two_pow_dvd_unitsOf {m e : Nat} (large : (e + 1) * binade ≤ m) : 2 ^ e ∣ unitsOf m := by
  have one : binade ≤ m := (Nat.le_mul_of_pos_left _ (by omega)).trans large
  obtain ⟨e', f, small, rfl⟩ := exists_binades one
  have exponents : e ≤ e' := by
    by_contra other
    have : (e' + 2) * binade ≤ (e + 1) * binade := Nat.mul_le_mul_right _ (by omega)
    have : (e' + 2) * binade = (e' + 1) * binade + binade := by ring
    omega
  rw [unitsOf_binades small]
  exact (Nat.pow_dvd_pow 2 exponents).mul_left _

/-- A number of 53 binary places and a bounded exponent. -/
theorem exists_eq_unitsOf {m e : Nat} (small : m < (e + 2) * binade) :
    ∃ n k, n < 2 * binade ∧ k ≤ e ∧ unitsOf m = n * 2 ^ k := by
  rcases Nat.lt_or_ge m binade with below | above
  · exact ⟨m, 0, by omega, Nat.zero_le _, by rw [unitsOf_of_lt_binade below]; omega⟩
  · obtain ⟨e', f, less, rfl⟩ := exists_binades above
    refine ⟨binade + f, e', by omega, ?_, unitsOf_binades less⟩
    by_contra other
    have : (e + 2) * binade ≤ (e' + 1) * binade := Nat.mul_le_mul_right _ (by omega)
    omega

/-- **A number less a whole number of spacings no finer than its own is a number.** -/
theorem exists_unitsOf_eq_sub {m e a : Nat} (small : m < (e + 2) * binade) (few : e ≤ 2045)
    (dvd : 2 ^ e ∣ a) (le : a ≤ unitsOf m) :
    ∃ m' < infinityMagnitude, unitsOf m' = unitsOf m - a := by
  obtain ⟨n, k, places, below, split⟩ := exists_eq_unitsOf small
  obtain ⟨q, rfl⟩ := (Nat.pow_dvd_pow 2 below).trans dvd
  obtain ⟨m', finite, same⟩ :=
    exists_unitsOf_eq (n := n - q) (e := k) (by omega) (below.trans few)
  refine ⟨m', finite, ?_⟩
  rw [same, split, Nat.sub_mul, Nat.mul_comm q]

/-! ## Fractions -/

namespace IsFraction

variable {x : Binary64} (fraction : x.IsFraction)

include fraction

theorem magnitude_le : x.magnitude ≤ one.magnitude := by
  have := natAbs_numericKey x
  have := natAbs_numericKey one
  have := fraction.nonneg
  have := fraction.le_one
  omega

theorem isFinite : x.isFinite = true :=
  isFinite_iff.2 (fraction.magnitude_le.trans_lt (by decide))

theorem signedUnits_eq : x.signedUnits = x.units :=
  signedUnits_of_numericKey_nonneg fraction.nonneg

theorem units_le : x.units ≤ unitsPerOne := by
  rw [← unitsOf_one]
  exact unitsOf_le_unitsOf (by decide) fraction.magnitude_le

theorem numericKey_eq : x.numericKey = x.magnitude := by
  have := natAbs_numericKey x
  have := fraction.nonneg
  omega

end IsFraction

theorem isFraction_zero : zero.IsFraction := ⟨by decide, by decide⟩

theorem isFraction_one : one.IsFraction := ⟨by decide, by decide⟩

theorem signedUnits_one : one.signedUnits = unitsPerOne := by
  rw [isFraction_one.signedUnits_eq, units, unitsOf_one]

/-- A number with an order code that is nearest to less than one is a fraction. -/
theorem isFraction_of_numericKey_eq {x : Binary64} {num den : Nat} (pos : 0 < den)
    (key : x.numericKey = nearestMagnitude num den) (le : num ≤ unitsPerOne * den) :
    x.IsFraction ∧ x.magnitude = nearestMagnitude num den := by
  have below : nearestMagnitude num den ≤ one.magnitude := by
    refine nearestMagnitude_le_of_le (by decide) pos ?_
    rwa [unitsOf_one]
  have magnitude := natAbs_numericKey x
  have own : one.numericKey = one.magnitude := rfl
  exact ⟨⟨by omega, by omega⟩, by omega⟩

/-! ## What is left of one -/

/-- **What is no more than one is off by half a place at most** after rounding. -/
theorem unitsOf_nearestMagnitude_of_le_one {num : Nat} (most : num ≤ unitsPerOne) :
    unitsOf (nearestMagnitude num 1) ≤ num + halfPlace ∧
      num ≤ unitsOf (nearestMagnitude num 1) + halfPlace := by
  rcases Nat.lt_or_eq_of_le most with less | same
  · have fine : spacing num 1 ≤ 1021 :=
      spacing_le (less.trans_eq unitsPerOne_eq_two_pow)
    have finite : nearestMagnitude num 1 < infinityMagnitude := by
      have below : nearestMagnitude num 1 ≤ one.magnitude := by
        refine nearestMagnitude_le_of_le (by decide) Nat.one_pos ?_
        rwa [unitsOf_one, Nat.mul_one]
      exact below.trans_lt (by decide)
    have error := two_mul_unitsOf_nearestMagnitude finite
    have place := two_pow_le_two_mul_halfPlace fine
    omega
  · have own : nearestMagnitude unitsPerOne 1 = one.magnitude := by
      have := nearestMagnitude_unitsOf (by decide : one.magnitude < infinityMagnitude) Nat.one_pos
      rwa [unitsOf_one, Nat.mul_one] at this
    rw [same, own, unitsOf_one]
    omega

section

variable {f e : Binary64} (fractionF : f.IsFraction) (fractionE : e.IsFraction)

section

include fractionE

theorem magnitude_one_sub :
    (one - e).IsFraction ∧ (one - e).magnitude = nearestMagnitude (unitsPerOne - e.units) 1 := by
  have key : (one - e).numericKey = nearestMagnitude (unitsPerOne - e.units) 1 := by
    have most := fractionE.units_le
    rw [numericKey_sub isFraction_one.isFinite fractionE.isFinite, signedUnits_one,
      fractionE.signedUnits_eq, ← Int.ofNat_sub most, nearestKey_natCast]
  exact isFraction_of_numericKey_eq Nat.one_pos key (by omega)

/-- The rounded rest is off by half a place at most. -/
theorem units_one_sub :
    (one - e).units ≤ unitsPerOne - e.units + halfPlace ∧
      unitsPerOne - e.units ≤ (one - e).units + halfPlace := by
  have error := unitsOf_nearestMagnitude_of_le_one (Nat.sub_le unitsPerOne e.units)
  rwa [← (magnitude_one_sub fractionE).2] at error

/-- **From a half on the rest is exact.** -/
theorem units_one_sub_of_half (half : unitsPerOne ≤ 2 * e.units) :
    (one - e).units = unitsPerOne - e.units := by
  have large := binades_le_of_half half
  obtain ⟨q, whole⟩ := two_pow_dvd_unitsOf large
  have most := fractionE.units_le
  have split : unitsPerOne - e.units = (2 ^ 53 - q) * 2 ^ 1021 := by
    rw [units, whole, Nat.sub_mul, Nat.mul_comm q, unitsPerOne_eq_mul]
  have some : 0 < q := by
    rcases Nat.eq_zero_or_pos q with rfl | some
    · rw [units, whole, Nat.mul_zero] at half
      have := unitsPerOne_pos
      omega
    · exact some
  obtain ⟨m, finite, same⟩ :=
    exists_unitsOf_eq (n := 2 ^ 53 - q) (e := 1021) (by rw [binade_eq]; omega) (by decide)
  have own := nearestMagnitude_unitsOf finite Nat.one_pos
  rw [Nat.mul_one, same, ← split] at own
  rw [units, (magnitude_one_sub fractionE).2, own, same, split]

/-- The rest is a whole number of places. -/
theorem two_pow_dvd_units_one_sub : 2 ^ 1021 ∣ (one - e).units := by
  rcases Nat.le_total unitsPerOne (2 * e.units) with half | less
  · have large := binades_le_of_half half
    rw [units_one_sub_of_half fractionE half, unitsPerOne_eq_mul]
    exact Nat.dvd_sub (Nat.dvd_mul_left ..) (two_pow_dvd_unitsOf large)
  · -- The rest of less than a half is at least a half.
    refine two_pow_dvd_unitsOf ?_
    rw [(magnitude_one_sub fractionE).2]
    refine le_nearestMagnitude_of_le (by decide) Nat.one_pos ?_
    have half := unitsOf_half
    omega

end

include fractionF fractionE

theorem magnitude_mul :
    (f * e).IsFraction ∧ (f * e).magnitude = nearestMagnitude (f.units * e.units) unitsPerOne := by
  have key : (f * e).numericKey = nearestMagnitude (f.units * e.units) unitsPerOne := by
    rw [numericKey_mul fractionF.isFinite fractionE.isFinite, fractionF.signedUnits_eq,
      fractionE.signedUnits_eq, ← Int.natCast_mul, nearestKey_natCast]
  exact isFraction_of_numericKey_eq unitsPerOne_pos key
    (Nat.mul_le_mul fractionF.units_le fractionE.units_le)

/-- A part of a fraction is no more than it. -/
theorem units_mul_le : (f * e).units ≤ e.units := by
  have finite := isFinite_iff.1 fractionE.isFinite
  refine unitsOf_le_unitsOf finite ?_
  rw [(magnitude_mul fractionF fractionE).2]
  refine nearestMagnitude_le_of_le finite unitsPerOne_pos ?_
  rw [Nat.mul_comm]
  exact Nat.mul_le_mul_left _ fractionF.units_le

theorem numericKey_interpolation :
    (one - e + f * e).numericKey = nearestMagnitude ((one - e).units + (f * e).units) 1 := by
  have rest := (magnitude_one_sub fractionE).1
  have part := (magnitude_mul fractionF fractionE).1
  rw [numericKey_add rest.isFinite part.isFinite, rest.signedUnits_eq, part.signedUnits_eq,
    ← Int.natCast_add, nearestKey_natCast]

/-- **The rest of one and a part of what was taken** are no more than one. -/
theorem interpolation_le_one : (one - e + f * e).numericKey ≤ one.numericKey := by
  have rest := (units_one_sub fractionE).1
  have part := units_mul_le fractionF fractionE
  have most := fractionE.units_le
  have sum : nearestMagnitude ((one - e).units + (f * e).units) 1 ≤
      nearestMagnitude (unitsPerOne + halfPlace) 1 :=
    nearestMagnitude_mono Nat.one_pos Nat.one_pos (by omega)
  rw [nearestMagnitude_near_one.1] at sum
  rw [numericKey_interpolation fractionF fractionE, isFraction_one.numericKey_eq]
  exact Int.ofNat_le.2 sum

/-- The part of `1 - e` that `f` is of one is no more than the rounded rest, if `f` is not one. -/
theorem mul_sub_le_of_lt_one (less : f.magnitude < one.magnitude) :
    f.units * (unitsPerOne - e.units) ≤ (one - e).units * unitsPerOne := by
  rcases Nat.le_total unitsPerOne (2 * e.units) with half | below
  · rw [units_one_sub_of_half fractionE half, Nat.mul_comm]
    exact Nat.mul_le_mul_left _ fractionF.units_le
  · -- Here the rest may be half a place too small, but `f` is a place below one.
    have floor : f.units + 2 * halfPlace ≤ unitsPerOne := by
      have := unitsOf_le_unitsOf (by decide : one.magnitude - 1 < infinityMagnitude)
        (by omega : f.magnitude ≤ one.magnitude - 1)
      have := unitsOf_below_one
      unfold units
      omega
    have rest := (units_one_sub fractionE).2
    have some : unitsPerOne ≤ 2 * (unitsPerOne - e.units) := by omega
    generalize unitsPerOne - e.units = r at rest some ⊢
    calc f.units * r ≤ (unitsPerOne - 2 * halfPlace) * r := Nat.mul_le_mul_right _ (by omega)
      _ = r * unitsPerOne - halfPlace * (2 * r) := by rw [Nat.sub_mul]; ring_nf
      _ ≤ r * unitsPerOne - halfPlace * unitsPerOne :=
        Nat.sub_le_sub_left (Nat.mul_le_mul_left _ some) _
      _ = (r - halfPlace) * unitsPerOne := (Nat.sub_mul ..).symm
      _ ≤ (one - e).units * unitsPerOne := Nat.mul_le_mul_right _ (by omega)

/-- **They are no less than the floor.** -/
theorem floor_le_interpolation : f.numericKey ≤ (one - e + f * e).numericKey := by
  rw [numericKey_interpolation fractionF fractionE, fractionF.numericKey_eq]
  refine Int.ofNat_le.2 ?_
  have finiteF := isFinite_iff.1 fractionF.isFinite
  rcases Nat.lt_or_eq_of_le fractionF.magnitude_le with less | same
  · -- `f - a` is a number, so the rounded `f * e` is no less than it.
    refine le_nearestMagnitude_of_le finiteF Nat.one_pos ?_
    show f.units * 1 ≤ _
    rcases Nat.le_total f.units (one - e).units with enough | short
    · omega
    · obtain ⟨m, finite, difference⟩ := exists_unitsOf_eq_sub (m := f.magnitude) (e := 1021)
        (less.trans_le (by decide)) (by decide) (two_pow_dvd_units_one_sub fractionE) short
      have product : unitsOf m * unitsPerOne ≤ f.units * e.units := by
        have scaled := mul_sub_le_of_lt_one fractionF fractionE less
        have most := Nat.mul_le_mul_left f.units fractionE.units_le
        rw [Nat.mul_sub] at scaled
        rw [difference, Nat.sub_mul]
        show f.units * unitsPerOne - _ ≤ _
        omega
      have above := le_nearestMagnitude_of_le finite unitsPerOne_pos product
      rw [← (magnitude_mul fractionF fractionE).2] at above
      have part := unitsOf_le_unitsOf
        (isFinite_iff.1 (magnitude_mul fractionF fractionE).1.isFinite) above
      rw [difference] at part
      change f.units - (one - e).units ≤ (f * e).units at part
      omega
  · have whole : f.units = unitsPerOne := by rw [units, same, unitsOf_one]
    have part : (f * e).units = e.units := by
      have own := nearestMagnitude_unitsOf (isFinite_iff.1 fractionE.isFinite) unitsPerOne_pos
      rw [units, (magnitude_mul fractionF fractionE).2, whole, Nat.mul_comm]
      exact congrArg unitsOf own
    have rest := (units_one_sub fractionE).2
    have most := fractionE.units_le
    rw [same, part, ← nearestMagnitude_near_one.2]
    exact nearestMagnitude_mono Nat.one_pos Nat.one_pos (by omega)

/-- **Falling from one to a floor** keeps between the two. -/
theorem interpolation_between :
    (one - e + f * e).IsFraction ∧ f.numericKey ≤ (one - e + f * e).numericKey :=
  have floor := floor_le_interpolation fractionF fractionE
  ⟨⟨fractionF.nonneg.trans floor, interpolation_le_one fractionF fractionE⟩, floor⟩

end

end Binary64
end Gradebook
