/-
# Rounding to points

A number of points is the whole number nearest to a binary64 number, a half going up, but no more
than the greatest score. What is not finite or not above zero is no points. In terms of exact values
this is the floor of the value and a half (`Score.toNat_round_eq`).

Nothing is lost on the way. The nearest whole number is a binary64 number itself, and so is the
greatest score, so their comparison in binary64 is that of the whole numbers
(`Score.toNat_round_steps`).
-/

import Gradebook.Proofs.Grading.Shares

namespace Gradebook

/-! ## Exact values -/

namespace Binary64

variable {x y : Binary64}

/-- **The order of finite numbers** is that of their exact values. -/
theorem value_le_iff (finiteX : x.isFinite = true) (finiteY : y.isFinite = true) :
    x.value ≤ y.value ↔ x.numericKey ≤ y.numericKey := by
  rw [value, value, div_le_div_iff_of_pos_right cast_unitsPerOne_pos, Int.cast_le,
    signedUnits_le_iff finiteX finiteY]

theorem value_pos_iff (finite : x.isFinite = true) : 0 < x.value ↔ 0 < x.numericKey := by
  have order := value_le_iff (y := zero) finite (by decide)
  have none : zero.value = 0 := by simpa using isWhole_zero.value_eq
  have key : zero.numericKey = 0 := rfl
  rw [none, key] at order
  rw [← not_le, ← not_le, order]

/-- A number above zero has no minus sign. -/
theorem isUnsigned_of_numericKey_pos (finite : x.isFinite = true) (pos : 0 < x.numericKey) :
    x.IsUnsigned := by
  refine ⟨isNaN_of_isFinite finite, ?_⟩
  unfold numericKey at pos
  split at pos
  · omega
  · next positive => simpa using positive

end Binary64

namespace Score

section

variable {x y : Binary64}

/-- What is not above zero is no points. -/
theorem round_of_numericKey_nonpos (finite : x.isFinite = true) (nonpos : x.numericKey ≤ 0) :
    round x = 0 := by
  cases sign : x.negative with
  | true => simp [round, sign]
  | false =>
    have key : x.numericKey = x.magnitude := by simp [Binary64.numericKey, sign]
    have none : x.isZero = true := decide_eq_true (by omega)
    have points := toNat_round finite (by omega)
    rw [Binary64.nearestWhole_of_isZero none, Nat.zero_min] at points
    exact UInt32.toNat_inj.1 points

/-- **The points of a number** in terms of its exact value. -/
theorem toNat_round_eq (x : Binary64) : ((round x).toNat : ℤ) =
    if x.isFinite = true ∧ 0 < x.value then min ⌊x.value + 1 / 2⌋ (2 ^ 32 - 1) else 0 := by
  split
  · next ordinary =>
    obtain ⟨finite, pos⟩ := ordinary
    rw [Binary64.value_pos_iff finite] at pos
    have unsigned := Binary64.isUnsigned_of_numericKey_pos finite pos
    rw [toNat_round finite pos.le, Nat.cast_min, unsigned.nearestWhole_eq]
    rfl
  · next other =>
    cases finite : x.isFinite with
    | false =>
      rw [round_of_not_finite finite]
      rfl
    | true =>
      have nonpos : x.numericKey ≤ 0 := by
        rw [← not_lt, ← Binary64.value_pos_iff finite]
        exact fun pos => other ⟨finite, pos⟩
      rw [round_of_numericKey_nonpos finite nonpos]
      rfl

/-- **Step by step:** the nearest whole number is compared with the greatest score as a number. -/
theorem toNat_round_steps (finite : x.isFinite = true) (pos : 0 < x.value) :
    (round x).toNat =
      if (Binary64.ofNat greatest).le (Binary64.ofNat x.nearestWhole) then greatest
      else x.nearestWhole := by
  have whole := Binary64.isWhole_ofNat_nearestWhole finite
  have most := Binary64.isWhole_ofNat (n := greatest) (by decide)
  rw [toNat_round finite ((Binary64.value_pos_iff finite).1 pos).le]
  split
  · next above =>
    have := (most.le_iff whole).1 above
    omega
  · next below =>
    have := mt (most.le_iff whole).2 below
    omega

theorem round_mono (finiteX : x.isFinite = true) (finiteY : y.isFinite = true)
    (le : x.value ≤ y.value) : round x ≤ round y := by
  rw [Binary64.value_le_iff finiteX finiteY] at le
  rcases Int.le_total x.numericKey 0 with nonpos | nonneg
  · rw [round_of_numericKey_nonpos finiteX nonpos]
    exact UInt32.le_iff_toNat_le.2 (Nat.zero_le _)
  · exact round_le_round finiteY nonneg le

end

theorem round_toNat (nominal : Score) : round (Binary64.ofNat nominal.toNat) = nominal :=
  round_of_units_eq (isFinite_toNat nominal) (Int.natCast_nonneg _) (units_toNat nominal)

/-- **Rounding to points is exact.** A finite number above zero gives the floor of its exact value
and a half, but no more than the greatest score, and everything else gives zero. The steps in
between are exact too, a greater value gives no fewer points, and every score gives itself. -/
theorem round_exact :
    (∀ x : Binary64, ((round x).toNat : ℤ) =
      if x.isFinite = true ∧ 0 < x.value then min ⌊x.value + 1 / 2⌋ (2 ^ 32 - 1) else 0) ∧
    (∀ x : Binary64, x.isFinite = true → 0 < x.value →
      (Binary64.ofNat x.nearestWhole).value = ⌊x.value + 1 / 2⌋ ∧
      (round x).toNat =
        if (Binary64.ofNat greatest).le (Binary64.ofNat x.nearestWhole) then greatest
        else x.nearestWhole) ∧
    (∀ x y : Binary64, x.isFinite = true → y.isFinite = true → x.value ≤ y.value →
      round x ≤ round y) ∧
    ∀ nominal : Score, round (Binary64.ofNat nominal.toNat) = nominal := by
  refine ⟨toNat_round_eq, fun x finite pos => ⟨?_, toNat_round_steps finite pos⟩,
    fun x y => round_mono, round_toNat⟩
  have unsigned :=
    Binary64.isUnsigned_of_numericKey_pos finite ((Binary64.value_pos_iff finite).1 pos)
  rw [(Binary64.isWhole_ofNat_nearestWhole finite).value_eq, ← unsigned.nearestWhole_eq,
    Int.cast_natCast]

/-- A half goes up, and the last number before it does not. -/
theorem round_exact_half :
    let below : Binary64 := ⟨false, 0x3FDFFFFFFFFFFFFF, by decide⟩
    let half : Binary64 := ⟨false, 0x3FE0000000000000, by decide⟩
    below.isFinite = true ∧ half.isFinite = true ∧ below.value ≤ half.value ∧
      round below ≤ round half ∧ round below = 0 ∧ round half = 1 := by
  intro below half
  have finiteX : below.isFinite = true := by decide
  have finiteY : half.isFinite = true := by decide
  have order : below.value ≤ half.value := (Binary64.value_le_iff finiteX finiteY).2 (by decide)
  exact ⟨finiteX, finiteY, order, round_exact.2.2.1 below half finiteX finiteY order,
    by decide +kernel, by decide +kernel⟩

end Score
end Gradebook
