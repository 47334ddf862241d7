/-
# Ratios of a score

A course may have any finite ratio that is not below zero, for its retakes and as the floor of a
linear policy (`Course.AcceptsRatio`), and so the product of a score and a ratio ranges over all
numbers that are not below zero, infinity included. Two clamps meet there. A finite product above
the greatest score is cut down to it, and an infinite one is no points at all.

The first clamp keeps the order: as long as the product is finite a greater ratio of a greater score
is no fewer points. The second one does not. A product is infinite from `2 ^ 1024 - 2 ^ 970` on,
where it is nearer to `2 ^ 1024` than to the greatest finite number or as near to both, and from
there on a score that was the greatest one drops to zero (`Score.scale_ratio`).
-/

import Gradebook.Course.Build
import Gradebook.Proofs.Grading.Points

namespace Gradebook

open Binary64 (unitsPerOne)

/-! ## What a course accepts -/

namespace Course

/-- **A ratio that a course accepts,** for its retakes or as the floor of a linear policy. -/
inductive AcceptsRatio (ratio : Binary64) : Prop
  | retake (valid : retakeError? ratio = none)
  | floor {grace : Duration} (usable : (Policy.linear grace ratio).fault? = none)

variable {ratio : Binary64}

/-- **Both checks ask for the same:** a finite number that is not below zero. -/
theorem acceptsRatio_iff : AcceptsRatio ratio ↔ ratio.IsRatio := by
  rw [Binary64.isRatio_iff]
  constructor
  · intro accepted
    cases accepted with
    | retake valid => simpa [retakeError?] using valid
    | floor usable =>
      simp only [Policy.fault?] at usable
      split_ifs at usable with short outside
      exact Bool.eq_false_iff.2 outside
  · intro within
    exact .retake (by simp [retakeError?, within])

end Course

/-! ## Infinite products -/

/-- The least product that is rounded to infinity. -/
theorem Binary64.cast_overflow :
    (overflow : ℚ) = (2 ^ 1024 - 2 ^ 970) * (unitsPerOne : ℚ) := by
  have shift (a b : ℕ) : ((2 : ℚ) ^ 54 - 1) * 2 ^ (a + b) = (2 ^ (54 + a) - 2 ^ a) * 2 ^ b := by
    ring
  have places : ((2 ^ 54 - 1 : ℕ) : ℚ) = 2 ^ 54 - 1 := by norm_num
  rw [overflow_eq, unitsPerOne_eq_two_pow, Nat.cast_mul, places, Nat.cast_pow, Nat.cast_pow,
    Nat.cast_ofNat]
  exact shift 970 1074

namespace Score

variable {r s : Binary64}

section

variable (ratio : r.IsRatio) (nominal : Score)

include ratio

/-- **The product of a score and a ratio is finite** if it is below `2 ^ 1024 - 2 ^ 970`. -/
theorem isFinite_mul_ratio_iff :
    (Binary64.ofNat nominal.toNat * r).isFinite = true ↔
      (nominal.toNat : ℚ) * r.value < 2 ^ 1024 - 2 ^ 970 := by
  have order : nominal.toNat * unitsPerOne * r.units < Binary64.overflow * unitsPerOne ↔
      nominal.toNat * r.units < Binary64.overflow := by
    rw [Nat.mul_right_comm, Nat.mul_lt_mul_right Binary64.unitsPerOne_pos]
  rw [Binary64.isFinite_iff, magnitude_mul_ratio ratio,
    Binary64.nearestMagnitude_lt_iff Binary64.unitsPerOne_pos, order, ratio.value_eq,
    ← mul_div_assoc, div_lt_iff₀ Binary64.cast_unitsPerOne_pos, ← Binary64.cast_overflow,
    ← Nat.cast_mul, Nat.cast_lt]

/-- **A finite product from the greatest score on** is cut down to it. -/
theorem toNat_scale_of_large (finite : (Binary64.ofNat nominal.toNat * r).isFinite = true)
    (large : (greatest : ℚ) ≤ nominal.toNat * r.value) : (nominal.scale r).toNat = greatest := by
  have most := Binary64.isWhole_ofNat (n := greatest) (by decide)
  have units : Binary64.unitsOf (Binary64.ofNat greatest).magnitude * unitsPerOne ≤
      nominal.toNat * unitsPerOne * r.units := by
    rw [ratio.value_eq, ← mul_div_assoc, le_div_iff₀ Binary64.cast_unitsPerOne_pos] at large
    have exact : greatest * unitsPerOne ≤ nominal.toNat * r.units := by exact_mod_cast large
    have same : Binary64.unitsOf (Binary64.ofNat greatest).magnitude = greatest * unitsPerOne :=
      most.units
    rw [same, Nat.mul_right_comm nominal.toNat]
    exact Nat.mul_le_mul_right _ exact
  have above := Binary64.le_nearestMagnitude_of_le (Binary64.isFinite_iff.1 most.isFinite)
    Binary64.unitsPerOne_pos units
  have key := numericKey_mul_ratio ratio nominal
  have greatestKey : (Binary64.ofNat greatest).numericKey = (Binary64.ofNat greatest).magnitude :=
    rfl
  have points : round (Binary64.ofNat greatest) ≤ nominal.scale r :=
    round_le_round finite (by omega) (by omega)
  have own : round (Binary64.ofNat greatest) = UInt32.ofNat greatest := round_toNat (.ofNat greatest)
  have last : (UInt32.ofNat greatest).toNat = greatest := by decide
  rw [own, UInt32.le_iff_toNat_le, last] at points
  have bound := (nominal.scale r).toNat_lt
  unfold greatest at points ⊢
  omega

end

/-- **A greater ratio of a greater score is no fewer points** for all ratios that a course accepts,
whether it is the ratio that is greater or the score or both, as long as the product is below
`2 ^ 1024 - 2 ^ 970`; and from the greatest score on it is that score. A product from
`2 ^ 1024 - 2 ^ 970` on is no points at all. -/
theorem scale_ratio (acceptedR : Course.AcceptsRatio r) (acceptedS : Course.AcceptsRatio s)
    (ratio : r.le s = true) {m n : Score} (size : m ≤ n) :
    ((n.toNat : ℚ) * s.value < 2 ^ 1024 - 2 ^ 970 →
      m.scale r ≤ n.scale s ∧
        ((greatest : ℚ) ≤ n.toNat * s.value → (n.scale s).toNat = greatest)) ∧
    (2 ^ 1024 - 2 ^ 970 ≤ (n.toNat : ℚ) * s.value → n.scale s = 0) := by
  rw [Course.acceptsRatio_iff] at acceptedR acceptedS
  have keys := (Binary64.le_iff.1 ratio).2.2
  have product := isFinite_mul_ratio_iff acceptedS n
  refine ⟨fun small => ?_, fun overflow => ?_⟩
  · rw [← product] at small
    exact ⟨scale_mono acceptedR acceptedS keys size small, toNat_scale_of_large acceptedS n small⟩
  · rw [← not_lt, ← product, Bool.not_eq_true] at overflow
    exact round_of_not_finite overflow

/-! ### Three halves of nine points, and a product that is infinite -/

theorem scale_ratio_threeHalves :
    Course.AcceptsRatio (.ofQuotient false 1 2) ∧ Course.AcceptsRatio (.ofQuotient false 3 2) ∧
      (Binary64.ofQuotient false 1 2).le (.ofQuotient false 3 2) = true ∧ (7 : Score) ≤ 9 ∧
      ((9 : Score).toNat : ℚ) * (Binary64.ofQuotient false 3 2).value < 2 ^ 1024 - 2 ^ 970 ∧
      scale 7 (.ofQuotient false 1 2) ≤ scale 9 (.ofQuotient false 3 2) := by
  have acceptedR : Course.AcceptsRatio (.ofQuotient false 1 2) := .retake (by decide +kernel)
  have acceptedS : Course.AcceptsRatio (.ofQuotient false 3 2) := .retake (by decide +kernel)
  have order : (Binary64.ofQuotient false 1 2).le (.ofQuotient false 3 2) = true := by
    decide +kernel
  have size : (7 : Score) ≤ 9 := by decide
  have small : ((9 : Score).toNat : ℚ) * (Binary64.ofQuotient false 3 2).value <
      2 ^ 1024 - 2 ^ 970 :=
    (isFinite_mul_ratio_iff (Course.acceptsRatio_iff.1 acceptedS) 9).1 (by decide +kernel)
  exact ⟨acceptedR, acceptedS, order, size, small,
    ((scale_ratio acceptedR acceptedS order size).1 small).1⟩

/-- **The order is lost** where a product overflows. With a ratio of `2 ^ 1023` a task of one point
earns the greatest score and a task of two points none, and with half of that ratio it is the
greatest score that a task of two points earns. -/
theorem not_scale_le_of_infinite :
    Course.AcceptsRatio (.ofNat (2 ^ 1022)) ∧ Course.AcceptsRatio (.ofNat (2 ^ 1023)) ∧
      (Binary64.ofNat (2 ^ 1022)).le (.ofNat (2 ^ 1023)) = true ∧ (1 : Score) ≤ 2 ∧
      ¬ scale 1 (.ofNat (2 ^ 1023)) ≤ scale 2 (.ofNat (2 ^ 1023)) ∧
      ¬ scale 2 (.ofNat (2 ^ 1022)) ≤ scale 2 (.ofNat (2 ^ 1023)) := by
  refine ⟨.retake ?_, .retake ?_, ?_, by decide, ?_, ?_⟩
  all_goals decide +kernel

end Score
end Gradebook
