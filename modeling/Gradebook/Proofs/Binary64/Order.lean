/-
# Exact results and the order of numbers

The order code of a number is its magnitude with its sign, so order codes do not tell the two zeros
apart. The code of a sum, a product or a quotient of finite numbers is the code nearest to the exact
result (`numericKey_add`, `numericKey_mul`, `numericKey_div`), whatever the signs of zeros were.
Since `nearestKey` is monotone and keeps what is a number already, an inequality of order codes
follows from one of exact results in units, which are integers.
-/

import Gradebook.Proofs.Binary64.Bounds
import Mathlib.Algebra.Order.Group.Unbundled.Int
import Mathlib.Tactic.Linarith
import Mathlib.Tactic.Zify

namespace Gradebook
namespace Binary64

/-! ## The nearest order code -/

/-- **The order code nearest to `num / den` units.** -/
def nearestKey (num : Int) (den : Nat) : Int :=
  if num < 0 then -(nearestMagnitude num.natAbs den : Int) else nearestMagnitude num.natAbs den

@[simp] theorem nearestMagnitude_zero (den : Nat) : nearestMagnitude 0 den = 0 := by
  simp [nearestMagnitude, Rounding.nearestEven]

@[simp] theorem nearestKey_natCast (num den : Nat) :
    nearestKey num den = nearestMagnitude num den := by
  simp [nearestKey]

section

variable {num num' : Int} {den den' : Nat}

/-- **A larger quotient has no smaller nearest order code.** -/
theorem nearestKey_mono (pos : 0 < den) (pos' : 0 < den') (h : num * den' ≤ num' * den) :
    nearestKey num den ≤ nearestKey num' den' := by
  have posInt : (0 : Int) < den := by omega
  have posInt' : (0 : Int) < den' := by omega
  unfold nearestKey
  by_cases below : num < 0 <;> by_cases below' : num' < 0
  · -- Both are negative, so the absolute values are the other way round.
    have sizes : num'.natAbs * den ≤ num.natAbs * den' := by
      zify
      rw [abs_of_neg below, abs_of_neg below']
      linarith
    have mono := nearestMagnitude_mono pos' pos sizes
    simp only [below, below', if_true]
    omega
  · simp only [below, below', if_true, if_false]
    omega
  · have negative : num' * den < 0 := Int.mul_neg_of_neg_of_pos below' posInt
    have nonneg : 0 ≤ num * den' := Int.mul_nonneg (by omega) posInt'.le
    omega
  · have sizes : num.natAbs * den' ≤ num'.natAbs * den := by
      zify
      rw [abs_of_nonneg (by omega), abs_of_nonneg (by omega)]
      exact h
    have mono := nearestMagnitude_mono pos pos' sizes
    simp only [below, below', if_false]
    omega

end

/-! ## Order codes -/

section

variable {x y : Binary64}

theorem le_iff : x.le y = true ↔
    x.isNaN = false ∧ y.isNaN = false ∧ x.numericKey ≤ y.numericKey := by
  simp [le, and_assoc]

theorem natAbs_numericKey (x : Binary64) : x.numericKey.natAbs = x.magnitude := by
  unfold numericKey
  split <;> simp

theorem numericKey_of_negative (negative : x.negative = true) :
    x.numericKey = -(x.magnitude : Int) := by
  rw [numericKey, negative, if_pos rfl]

theorem numericKey_of_isZero (none : x.isZero = true) : x.numericKey = 0 := by
  have := natAbs_numericKey x
  have : x.magnitude = 0 := of_decide_eq_true none
  omega

theorem eq_infinity {negative : Bool} (infinite : x.isInfinite = true)
    (sign : x.negative = negative) : x = infinity negative := by
  obtain ⟨sign', magnitude, lt⟩ := x
  obtain rfl : magnitude = infinityMagnitude := of_decide_eq_true infinite
  obtain rfl : sign' = negative := sign
  rfl

/-- A number between two order codes of finite numbers is finite. -/
theorem isFinite_of_numericKey {z : Binary64} (finiteX : x.isFinite = true)
    (finiteY : y.isFinite = true) (lower : x.numericKey ≤ z.numericKey)
    (upper : z.numericKey ≤ y.numericKey) : z.isFinite = true := by
  have := isFinite_iff.1 finiteX
  have := isFinite_iff.1 finiteY
  have := natAbs_numericKey x
  have := natAbs_numericKey y
  have := natAbs_numericKey z
  rw [isFinite_iff]
  omega

theorem numericKey_ofUnits (negative : Bool) (num den : Nat) :
    (ofUnits negative num den).numericKey =
      nearestKey (if negative then -(num : Int) else num) den := by
  cases negative with
  | false => simp [numericKey, ofUnits]
  | true =>
    rcases Nat.eq_zero_or_pos num with rfl | some
    · simp [numericKey, ofUnits, nearestKey]
    · simp [numericKey, ofUnits, nearestKey, some]

/-- **A finite number is nearest to itself.** -/
theorem nearestKey_signedUnits (finite : x.isFinite = true) {den : Nat} (pos : 0 < den) :
    nearestKey (x.signedUnits * den) den = x.numericKey := by
  have own : ofUnits x.negative (x.units * den) den = x := by
    have magnitude := nearestMagnitude_unitsOf (isFinite_iff.1 finite) pos
    obtain ⟨negative, m, _⟩ := x
    simp only [ofUnits, units, magnitude]
  have key := numericKey_ofUnits x.negative (x.units * den) den
  rw [own] at key
  rw [key, signedUnits]
  split <;> simp

/-- What is no more than a finite number is rounded to no more. -/
theorem nearestKey_le (finite : x.isFinite = true) {num : Int} {den : Nat} (pos : 0 < den)
    (h : num ≤ x.signedUnits * den) : nearestKey num den ≤ x.numericKey := by
  rw [← nearestKey_signedUnits finite pos]
  exact nearestKey_mono pos pos (Int.mul_le_mul_of_nonneg_right h (by omega))

/-- **The order of finite numbers is that of their exact values.** -/
theorem signedUnits_le_iff (finiteX : x.isFinite = true) (finiteY : y.isFinite = true) :
    x.signedUnits ≤ y.signedUnits ↔ x.numericKey ≤ y.numericKey := by
  have strict : ∀ {a b : Binary64}, a.isFinite = true → b.isFinite = true →
      a.signedUnits ≤ b.signedUnits → a.numericKey ≤ b.numericKey := by
    intro a b finiteA finiteB h
    rw [← nearestKey_signedUnits finiteA Nat.one_pos]
    exact nearestKey_le finiteB Nat.one_pos (by omega)
  refine ⟨strict finiteX finiteY, fun h => ?_⟩
  have sizeX := isFinite_iff.1 finiteX
  have sizeY := isFinite_iff.1 finiteY
  unfold numericKey at h
  unfold signedUnits units
  cases signX : x.negative <;> cases signY : y.negative <;>
    simp only [signX, signY, Bool.false_eq_true, if_true, if_false] at h ⊢
  · have := unitsOf_le_unitsOf sizeY (by omega : x.magnitude ≤ y.magnitude)
    omega
  · have noneX : x.magnitude = 0 := by omega
    have noneY : y.magnitude = 0 := by omega
    simp [noneX, noneY, unitsOf_of_lt_binade (by decide : 0 < binade)]
  · omega
  · have := unitsOf_le_unitsOf sizeX (by omega : y.magnitude ≤ x.magnitude)
    omega

/-- A number that is not negative has its units as its exact value. -/
theorem signedUnits_of_numericKey_nonneg (h : 0 ≤ x.numericKey) : x.signedUnits = x.units := by
  unfold numericKey at h
  unfold signedUnits
  split at h
  · next negative =>
    have none : x.magnitude = 0 := by omega
    simp [negative, units, none, unitsOf_of_lt_binade (by decide : 0 < binade)]
  · next positive => simp [positive]

theorem max_of_isNaN (number : x.isNaN = false) (isNaN : y.isNaN = true) : x.max y = x := by
  simp [max, number, isNaN]

/-- **The greater of two numbers** has the greater order code. -/
theorem numericKey_max (numberX : x.isNaN = false) (numberY : y.isNaN = false) :
    (x.max y).numericKey = x.numericKey ⊔ y.numericKey := by
  by_cases less : x.numericKey < y.numericKey
  · simp [max, lt, numberX, numberY, less, less.le]
  · simp [max, lt, numberX, numberY, less, Int.not_lt.1 less]

/-! ## Operations -/

@[simp] theorem isFinite_neg (x : Binary64) : x.neg.isFinite = x.isFinite := rfl

@[simp] theorem isNaN_neg (x : Binary64) : (-x).isNaN = x.isNaN := rfl

@[simp] theorem isInfinite_neg (x : Binary64) : (-x).isInfinite = x.isInfinite := rfl

@[simp] theorem isZero_neg (x : Binary64) : (-x).isZero = x.isZero := rfl

@[simp] theorem magnitude_neg (x : Binary64) : (-x).magnitude = x.magnitude := rfl

@[simp] theorem negative_neg (x : Binary64) : (-x).negative = !x.negative := rfl

theorem signedUnits_neg (x : Binary64) : x.neg.signedUnits = -x.signedUnits := by
  obtain ⟨negative, m, _⟩ := x
  cases negative <;> simp [signedUnits, neg, units]

variable (finiteX : x.isFinite = true) (finiteY : y.isFinite = true)

include finiteX finiteY

theorem numericKey_mul :
    (x * y).numericKey = nearestKey (x.signedUnits * y.signedUnits) unitsPerOne := by
  rw [mul_of_isFinite finiteX finiteY, numericKey_ofUnits]
  congr 1
  unfold signedUnits
  cases x.negative <;> cases y.negative <;> simp

theorem numericKey_add :
    (x + y).numericKey = nearestKey (x.signedUnits + y.signedUnits) 1 := by
  have exact : (ofSignedUnits (x.signedUnits + y.signedUnits)).numericKey =
      nearestKey (x.signedUnits + y.signedUnits) 1 := by
    rw [ofSignedUnits, numericKey_ofUnits]
    congr 1
    by_cases below : x.signedUnits + y.signedUnits < 0
    · simp only [below, decide_true, if_true]
      omega
    · simp only [below, decide_false, Bool.false_eq_true, if_false]
      omega
  rw [add_of_isFinite finiteX finiteY]
  split
  · next zeros =>
    obtain ⟨noneX, noneY⟩ := Bool.and_eq_true_iff.1 zeros
    have keyX : x.numericKey = 0 := by
      have := natAbs_numericKey x
      have : x.magnitude = 0 := of_decide_eq_true noneX
      omega
    have keyY : y.numericKey = 0 := by
      have := natAbs_numericKey y
      have : y.magnitude = 0 := of_decide_eq_true noneY
      omega
    have sum : x.signedUnits + y.signedUnits = 0 := by
      unfold signedUnits
      rw [units_of_isZero noneX, units_of_isZero noneY]
      split <;> split <;> rfl
    rw [sum]
    split
    · rw [keyY]; rfl
    · rw [keyX]; rfl
  · exact exact

theorem numericKey_sub :
    (x - y).numericKey = nearestKey (x.signedUnits - y.signedUnits) 1 := by
  have difference : x - y = x + y.neg := propagate_of_isFinite finiteX finiteY _
  rw [difference, numericKey_add finiteX (by simpa using finiteY), signedUnits_neg]
  rfl

theorem numericKey_div (some : 0 < y.signedUnits) :
    (x / y).numericKey = nearestKey (x.signedUnits * unitsPerOne) y.units := by
  have positive : y.negative = false := by
    unfold signedUnits at some
    split at some
    · omega
    · next positive => simpa using positive
  have units : 0 < y.units := by
    rw [signedUnits, positive] at some
    simpa using some
  rw [div_of_isFinite finiteX finiteY units, numericKey_ofUnits, positive, signedUnits]
  cases x.negative with
  | false => simp only [bne_self_eq_false, Bool.false_eq_true, if_false, Nat.cast_mul]
  | true => simp only [Bool.bne_false, if_true, Nat.cast_mul, neg_mul]

end

/-! ## Quotients that may be infinite or not a number -/

section

variable {x y z : Binary64}

theorem propagate_of_isNaN_eq_false (numberX : x.isNaN = false) (numberY : y.isNaN = false)
    (result : Binary64) : propagate x y result = result := by
  rw [propagate, numberX, numberY]
  rfl

theorem isNaN_eq_false_iff : x.isNaN = false ↔ x.magnitude ≤ infinityMagnitude := by
  simp [isNaN]

theorem isFinite_of_number (number : x.isNaN = false) (within : x.isInfinite = false) :
    x.isFinite = true := by
  have := isNaN_eq_false_iff.1 number
  have := of_decide_eq_false within
  rw [isFinite_iff]
  omega

theorem units_pos_of_isZero (some : x.isZero = false) (finite : x.isFinite = true) :
    0 < x.units := by
  have nonzero : x.magnitude ≠ 0 := of_decide_eq_false some
  have least : unitsOf 1 ≤ x.units := unitsOf_le_unitsOf (isFinite_iff.1 finite) (by omega)
  have unit : unitsOf 1 = 1 := unitsOf_of_lt_binade (by decide)
  omega

section

variable (numberX : x.isNaN = false) (numberZ : z.isNaN = false)

include numberX numberZ

/-- The absolute value of a quotient does not depend on the signs. -/
theorem magnitude_div : (x / z).magnitude =
    if x.isInfinite then (if z.isInfinite then invalid.magnitude else infinityMagnitude)
    else if z.isInfinite then 0
    else if z.isZero then (if x.isZero then invalid.magnitude else infinityMagnitude)
    else nearestMagnitude (x.units * unitsPerOne) z.units := by
  show (div x z).magnitude = _
  rw [div, propagate_of_isNaN_eq_false numberX numberZ]
  split_ifs <;> rfl

/-- **A quotient of numbers is no number** if both are infinite or both are zero. -/
theorem isNaN_div_iff : (x / z).isNaN = true ↔
    x.isInfinite = true ∧ z.isInfinite = true ∨
      x.isZero = true ∧ z.isZero = true := by
  have some : infinityMagnitude < invalid.magnitude := by decide
  have most := nearestMagnitude_le (x.units * unitsPerOne) z.units
  have apart : ∀ a : Binary64, a.isInfinite = true → a.isZero = false := by
    intro a infinite
    have large : a.magnitude = infinityMagnitude := of_decide_eq_true infinite
    exact decide_eq_false (by rw [large]; decide)
  rw [isNaN, decide_eq_true_iff, magnitude_div numberX numberZ]
  split_ifs with infX infZ infZ noneZ noneX <;> grind

end

/-- **A larger number has no smaller quotient** in absolute value, if both quotients are
numbers. -/
theorem magnitude_div_le (numberX : x.isNaN = false) (numberY : y.isNaN = false)
    (numberZ : z.isNaN = false) (quotientX : (x / z).isNaN = false)
    (quotientY : (y / z).isNaN = false) (le : x.magnitude ≤ y.magnitude) :
    (x / z).magnitude ≤ (y / z).magnitude := by
  have largest := isNaN_eq_false_iff.1 quotientX
  have undefined : ¬ ((y / z).isNaN = true) := by simp [quotientY]
  rw [isNaN_div_iff numberY numberZ] at undefined
  have finiteX : ¬ y.isInfinite = true → x.isFinite = true := fun within => by
    have := isFinite_iff.1 (isFinite_of_number numberY (by simpa using within))
    rw [isFinite_iff]
    omega
  by_cases top : (y / z).magnitude = infinityMagnitude
  · rwa [top]
  · have quotient := magnitude_div numberY numberZ
    split_ifs at quotient with infY infZ infZ noneZ noneY
    · exact absurd (.inl ⟨infY, infZ⟩) undefined
    · exact absurd quotient top
    · have infX : x.isInfinite = false := isInfinite_of_isFinite (finiteX infY)
      simp [magnitude_div numberX numberZ, infX, infZ]
    · exact absurd (.inr ⟨noneY, noneZ⟩) undefined
    · exact absurd quotient top
    · have infX : x.isInfinite = false := isInfinite_of_isFinite (finiteX infY)
      have some : 0 < z.units := units_pos_of_isZero (by simpa using noneZ)
        (isFinite_of_number numberZ (by simpa using infZ))
      have sizes : x.units ≤ y.units :=
        unitsOf_le_unitsOf (isFinite_iff.1 (isFinite_of_number numberY (by simpa using infY))) le
      rw [quotient, magnitude_div numberX numberZ]
      simp only [infX, infZ, noneZ, Bool.false_eq_true, if_false]
      exact nearestMagnitude_mono some some
        (Nat.mul_le_mul_right _ (Nat.mul_le_mul_right _ sizes))

/-- A quotient that is a number is negative if the signs are different. -/
theorem negative_div (numberX : x.isNaN = false) (numberZ : z.isNaN = false)
    (quotient : (x / z).isNaN = false) :
    (x / z).negative = (x.negative != z.negative) := by
  change (div x z).isNaN = false at quotient
  show (div x z).negative = _
  rw [div, propagate_of_isNaN_eq_false numberX numberZ] at quotient ⊢
  split_ifs at quotient ⊢
  all_goals first | rfl | exact absurd quotient (by decide)

end

end Binary64
end Gradebook
