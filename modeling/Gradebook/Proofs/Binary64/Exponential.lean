/-
# The exponential falls

Every step of the series is monotone in what it is given, so the fixed-point exponential grows with
its argument (`expFixed_mono`), and it is no less than one. The exponential of a negative number is
the reciprocal, so it is a fraction (`isFraction_exp`) that falls as the number gets larger in
absolute value (`exp_antitone`), down to the zero that stands for all numbers beyond the limit.

So much holds of any sound exponential, though two of them may differ in the last bit. What the
theory of awards relies on is a structure of its own (`Decaying`), and this exponential has it
(`decaying_exp`).
-/

import Gradebook.Binary64.Exponential
import Gradebook.Proofs.Binary64.Interpolation

namespace Gradebook
namespace Binary64

/-! ## The series -/

theorem expScale_pos : 0 < expScale := by decide +kernel

theorem expScale_le_expSeries (t steps k : Nat) : expScale ≤ expSeries t steps k := by
  cases steps with
  | zero => exact Nat.le_refl _
  | succ steps => exact Nat.le_add_right ..

/-- **A larger argument and more steps** give no smaller a sum. -/
theorem expSeries_mono {t t' steps steps' : Nat} (arguments : t ≤ t') (more : steps ≤ steps')
    (k : Nat) : expSeries t steps k ≤ expSeries t' steps' k := by
  induction steps generalizing steps' k with
  | zero => exact expScale_le_expSeries ..
  | succ steps ih =>
    obtain ⟨steps', rfl⟩ := Nat.exists_eq_add_one_of_ne_zero (Nat.ne_zero_of_lt more)
    have rest := ih (Nat.le_of_succ_le_succ more) (k + 1)
    exact Nat.add_le_add_left (Nat.div_le_div_right (Nat.mul_le_mul arguments rest)) _

theorem expFixed_mono {t t' : Nat} (le : t ≤ t') : expFixed t ≤ expFixed t' := by
  have steps : t / expScale ≤ t' / expScale := Nat.div_le_div_right le
  exact expSeries_mono le (by omega) 1

theorem expScale_le_expFixed (t : Nat) : expScale ≤ expFixed t := expScale_le_expSeries ..

/-! ## Negative numbers -/

section

variable {x y : Binary64}

/-- Whether the exponential is taken to be infinite, or zero for a negative number. -/
def IsBeyond (x : Binary64) : Prop := expLimit * unitsPerOne ≤ x.units ∨ x.isInfinite = true

theorem isNaN_exp (isNaN : x.isNaN = true) : x.exp.isNaN = true := by
  have above : infinityMagnitude < x.magnitude := of_decide_eq_true isNaN
  have more : x.magnitude ≤ x.quiet.magnitude := Nat.left_le_or
  rw [exp, if_pos isNaN]
  exact decide_eq_true (by omega)

variable (number : x.isNaN = false) (negative : x.negative = true)

include number negative

theorem exp_of_isBeyond (beyond : x.IsBeyond) : x.exp = zero := by
  have limit : (expLimit * unitsPerOne ≤ x.units || x.isInfinite) = true := by
    simpa [IsBeyond] using beyond
  simp [exp, number, negative, limit]

theorem exp_of_not_isBeyond (within : ¬ x.IsBeyond) :
    x.exp = ofQuotient false expScale (expFixed (x.units * expScale / unitsPerOne)) := by
  have limit : ¬ (expLimit * unitsPerOne ≤ x.units || x.isInfinite) = true := by
    simpa [IsBeyond] using within
  rw [exp, if_neg (by simp [number]), if_neg limit]
  simp only [negative, if_true]

/-- **The exponential of a negative number is a fraction.** -/
theorem isFraction_exp : x.exp.IsFraction := by
  by_cases beyond : x.IsBeyond
  · rw [exp_of_isBeyond number negative beyond]
    exact isFraction_zero
  · rw [exp_of_not_isBeyond number negative beyond]
    have most := expScale_le_expFixed (x.units * expScale / unitsPerOne)
    refine (isFraction_of_numericKey_eq (expScale_pos.trans_le most) rfl ?_).1
    rw [Nat.mul_comm]
    exact Nat.mul_le_mul_left _ most

/-- **It falls** as the number gets larger in absolute value. -/
theorem exp_antitone (number' : y.isNaN = false) (negative' : y.negative = true)
    (le : x.magnitude ≤ y.magnitude) : y.exp.numericKey ≤ x.exp.numericKey := by
  by_cases beyond' : y.IsBeyond
  · rw [exp_of_isBeyond number' negative' beyond']
    exact (isFraction_exp number negative).nonneg
  · -- What is not beyond the limit is finite, so sizes are those of the absolute values.
    have finite : y.isFinite = true := by
      by_contra extreme
      rcases isInfinite_or_isNaN (Bool.not_eq_true _ ▸ extreme) with infinite | isNaN
      · exact beyond' (.inr infinite)
      · rw [number'] at isNaN
        cases isNaN
    have sizes : x.units ≤ y.units := unitsOf_le_unitsOf (isFinite_iff.1 finite) le
    have within : ¬ x.IsBeyond := by
      rintro (large | infinite)
      · exact beyond' (.inl (large.trans sizes))
      · have : x.magnitude = infinityMagnitude := of_decide_eq_true infinite
        have := isFinite_iff.1 finite
        omega
    rw [exp_of_not_isBeyond number negative within, exp_of_not_isBeyond number' negative' beyond']
    have arguments : x.units * expScale / unitsPerOne ≤ y.units * expScale / unitsPerOne :=
      Nat.div_le_div_right (Nat.mul_le_mul_right _ sizes)
    have least := expScale_pos.trans_le (expScale_le_expFixed (x.units * expScale / unitsPerOne))
    have least' := expScale_pos.trans_le (expScale_le_expFixed (y.units * expScale / unitsPerOne))
    exact Int.ofNat_le.2 <| nearestMagnitude_mono least' least <|
      Nat.mul_le_mul_left _ (expFixed_mono arguments)

end

/-! ## Exponentials in general -/

/-- **What is relied on of an exponential,** none of it above zero. A datum that is not a number
stays one, numbers that are not above zero go to fractions without changing their order, and minus
infinity goes to zero. -/
structure Decaying (exp : Binary64 → Binary64) : Prop where
  isNaN {x : Binary64} (isNaN : x.isNaN = true) : (exp x).isNaN = true
  isFraction {x : Binary64} (le : x.le zero = true) : (exp x).IsFraction
  mono {x y : Binary64} (le : x.le y = true) (below : y.le zero = true) :
    (exp x).le (exp y) = true
  isZero : (exp (infinity true)).isZero = true

section

variable {x y : Binary64}

theorem le_zero_of_negative (number : x.isNaN = false) (negative : x.negative = true) :
    x.le zero = true := by
  refine le_iff.2 ⟨number, rfl, ?_⟩
  rw [numericKey_of_negative negative]
  exact Int.neg_nonpos_of_nonneg (Int.natCast_nonneg _)

theorem le_zero_of_le (le : x.le y = true) (below : y.le zero = true) : x.le zero = true := by
  obtain ⟨number, -, keys⟩ := le_iff.1 le
  exact le_iff.2 ⟨number, rfl, keys.trans (le_iff.1 below).2.2⟩

/-- A number that is not above zero has a negative sign, or it is zero. -/
theorem negative_or_eq_zero (below : x.le zero = true) : x.negative = true ∨ x = zero := by
  cases negative : x.negative with
  | true => exact .inl rfl
  | false =>
    have key : (x.magnitude : Int) ≤ 0 := by
      simpa [numericKey, negative, zero] using (le_iff.1 below).2.2
    have total : x.totalKey = x.magnitude := by rw [totalKey, negative]; rfl
    have least : zero.totalKey = 0 := rfl
    exact .inr (totalKey_injective (by omega))

/-- Of the numbers with a negative sign only the other zero is not below zero. -/
theorem eq_neg_zero (above : zero.le x = true) (negative : x.negative = true) : x = zero.neg := by
  have key : 0 ≤ x.numericKey := (le_iff.1 above).2.2
  rw [numericKey_of_negative negative] at key
  have total : x.totalKey = -(x.magnitude : Int) - 1 := by rw [totalKey, negative]; rfl
  have least : zero.neg.totalKey = -1 := rfl
  exact totalKey_injective (by omega)

theorem exp_zero : zero.exp = one := by decide +kernel

theorem exp_neg_zero : zero.neg.exp = one := by decide +kernel

theorem isFraction_exp_of_le_zero (below : x.le zero = true) : x.exp.IsFraction := by
  rcases negative_or_eq_zero below with negative | rfl
  · exact isFraction_exp (le_iff.1 below).1 negative
  · rw [exp_zero]
    exact isFraction_one

theorem exp_mono_of_le_zero (le : x.le y = true) (below : y.le zero = true) :
    x.exp.numericKey ≤ y.exp.numericKey := by
  have below' := le_zero_of_le le below
  have fraction := isFraction_exp_of_le_zero below'
  obtain ⟨numberX, numberY, keys⟩ := le_iff.1 le
  rcases negative_or_eq_zero below with negativeY | rfl
  · rcases negative_or_eq_zero below' with negativeX | rfl
    · refine exp_antitone numberY negativeY numberX negativeX ?_
      rw [numericKey_of_negative negativeX, numericKey_of_negative negativeY] at keys
      exact Int.ofNat_le.1 (Int.neg_le_neg_iff.1 keys)
    · -- Both are zero, one of either sign.
      rw [eq_neg_zero le negativeY, exp_neg_zero]
      exact fraction.le_one
  · rw [exp_zero]
    exact fraction.le_one

/-- **The exponential of the series** can be relied on. -/
theorem decaying_exp : Decaying exp where
  isNaN := isNaN_exp
  isFraction := isFraction_exp_of_le_zero
  mono le below :=
    le_iff.2 ⟨isNaN_of_isFinite (isFraction_exp_of_le_zero (le_zero_of_le le below)).isFinite,
      isNaN_of_isFinite (isFraction_exp_of_le_zero below).isFinite, exp_mono_of_le_zero le below⟩
  isZero := by decide +kernel

end

end Binary64
end Gradebook
