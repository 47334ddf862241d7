/-
# Rounding to binary64

The magnitude that is nearest to a quotient grows with the quotient (`nearestMagnitude_mono`), and
the absolute value of a finite magnitude is its own rounding (`nearestMagnitude_unitsOf`). Together
they say that rounding does not cross a finite magnitude: a quotient below one is rounded to no
more than it (`nearestMagnitude_le_of_le`), a quotient above one to no less
(`le_nearestMagnitude_of_le`). And it is off by half the spacing of the magnitudes at most
(`two_mul_unitsOf_nearestMagnitude`).

A whole number below two binades times a power of two is the absolute value of a finite magnitude
(`exists_unitsOf_eq`), so such numbers serve as bounds.
-/

import Gradebook.Binary64.Arithmetic
import Mathlib.Tactic.Common
import Mathlib.Tactic.Ring

namespace Gradebook

/-! ## Whole numbers -/

namespace Rounding

variable {num den num' den' : Nat}

/-- A larger quotient has no smaller whole part. -/
theorem div_mono (pos : 0 < den) (pos' : 0 < den') (h : num * den' ≤ num' * den) :
    num / den ≤ num' / den' := by
  rw [Nat.le_div_iff_mul_le pos']
  refine Nat.le_of_mul_le_mul_right ?_ pos
  calc num / den * den' * den = num / den * den * den' := by ring
    _ ≤ num * den' := Nat.mul_le_mul_right _ (Nat.div_mul_le_self ..)
    _ ≤ num' * den := h

/-- A larger quotient has no smaller nearest whole number. -/
theorem nearestEven_mono (pos : 0 < den) (pos' : 0 < den') (h : num * den' ≤ num' * den) :
    nearestEven num den ≤ nearestEven num' den' := by
  have split := Nat.div_add_mod num den
  have split' := Nat.div_add_mod num' den'
  rcases Nat.lt_or_eq_of_le (div_mono pos pos' h) with below | same
  · calc nearestEven num den ≤ num / den + 1 := nearestEven_le_succ ..
      _ ≤ num' / den' := below
      _ ≤ nearestEven num' den' := div_le_nearestEven ..
  · -- With the same floor the remainders decide.
    have rests : num % den * den' ≤ num' % den' * den := by
      have whole : den * (num / den) * den' = den' * (num' / den') * den := by rw [same]; ring
      have left : num * den' = den * (num / den) * den' + num % den * den' := by
        rw [← Nat.add_mul, split]
      have right : num' * den = den' * (num' / den') * den + num' % den' * den := by
        rw [← Nat.add_mul, split']
      omega
    have up : den ≤ 2 * (num % den) → den' ≤ 2 * (num' % den') := fun half => by
      refine Nat.le_of_mul_le_mul_right ?_ pos
      calc den' * den ≤ den' * (2 * (num % den)) := Nat.mul_le_mul_left _ half
        _ = 2 * (num % den * den') := by ring
        _ ≤ 2 * (num' % den' * den) := Nat.mul_le_mul_left _ rests
        _ = 2 * (num' % den') * den := by ring
    have down : 2 * (num' % den') ≤ den' → 2 * (num % den) ≤ den := fun half => by
      refine Nat.le_of_mul_le_mul_right ?_ pos'
      calc 2 * (num % den) * den' = 2 * (num % den * den') := by ring
        _ ≤ 2 * (num' % den' * den) := Nat.mul_le_mul_left _ rests
        _ = 2 * (num' % den') * den := by ring
        _ ≤ den' * den := Nat.mul_le_mul_right _ half
        _ = den * den' := Nat.mul_comm ..
    simp only [nearestEven, same]
    split_ifs <;> omega

/-- **The nearest whole number is off by a half at most.** -/
theorem two_mul_nearestEven_mul (num : Nat) (pos : 0 < den) :
    2 * (nearestEven num den * den) ≤ 2 * num + den ∧
      2 * num ≤ 2 * (nearestEven num den * den) + den := by
  have split := Nat.div_add_mod num den
  have rest := Nat.mod_lt num pos
  have next : (num / den + 1) * den = num / den * den + den := Nat.succ_mul ..
  rw [Nat.mul_comm] at split
  unfold nearestEven
  simp only
  split_ifs <;> omega

/-- A larger number has no smaller nearest whole number where halves go up. -/
theorem nearestUp_mono (le : num ≤ num') (den : Nat) : nearestUp num den ≤ nearestUp num' den :=
  Nat.div_le_div_right (by omega)

/-- A whole quotient is its own rounding. -/
theorem nearestUp_mul (n : Nat) (pos : 0 < den) : nearestUp (n * den) den = n := by
  have doubled : 2 * (n * den) + den = den + n * (2 * den) := by ring
  rw [nearestUp, doubled, Nat.add_mul_div_right _ _ (by omega), Nat.div_eq_of_lt (by omega),
    Nat.zero_add]

end Rounding

namespace Binary64

/-! ## Magnitudes -/

/-- The binary logarithm of the spacing of the magnitudes around `num / den` units. -/
def spacing (num den : Nat) : Nat := (num / den).log2 - 52

/-- The magnitude nearest to `num / den` units if there were no largest one. -/
def unboundedMagnitude (num den : Nat) : Nat :=
  spacing num den * binade + Rounding.nearestEven num (den * 2 ^ spacing num den)

theorem nearestMagnitude_eq_min (num den : Nat) :
    nearestMagnitude num den = min (unboundedMagnitude num den) infinityMagnitude := rfl

theorem binade_eq : binade = 2 ^ 52 := by decide

theorem infinityMagnitude_eq : infinityMagnitude = 2047 * binade := by decide

section

variable {num den num' den' m n : Nat}

/-- Below so many spacings the magnitudes are numbered from the start of their binade. -/
theorem div_lt_two_pow_spacing (num den : Nat) :
    num / den / 2 ^ spacing num den < 2 * binade := by
  have lt : num / den < 2 ^ ((num / den).log2 + 1) := Nat.lt_log2_self
  rw [Nat.div_lt_iff_lt_mul (Nat.two_pow_pos _), binade_eq, ← Nat.pow_succ', ← Nat.pow_add]
  exact lt.trans_le (Nat.pow_le_pow_right (by decide) (by unfold spacing; omega))

theorem binade_le_div (coarse : spacing num den ≠ 0) :
    binade ≤ num / den / 2 ^ spacing num den := by
  have some : num / den ≠ 0 := by
    intro none
    rw [spacing, none, Nat.log2_zero] at coarse
    exact coarse rfl
  rw [Nat.le_div_iff_mul_le (Nat.two_pow_pos _), binade_eq, ← Nat.pow_add,
    ← Nat.le_log2 some]
  unfold spacing at *
  omega

theorem spacing_le {e : Nat} (less : num < 2 ^ (e + 53)) : spacing num 1 ≤ e := by
  unfold spacing
  rw [Nat.div_one]
  rcases Nat.eq_zero_or_pos num with rfl | some
  · simp
  · have places : num.log2 < e + 53 := (Nat.log2_lt some.ne').2 less
    omega

theorem unboundedMagnitude_le (num den : Nat) :
    unboundedMagnitude num den ≤ (spacing num den + 2) * binade := by
  have near := Rounding.nearestEven_le_succ num (den * 2 ^ spacing num den)
  have lt := div_lt_two_pow_spacing num den
  rw [← Nat.div_div_eq_div_mul] at near
  unfold unboundedMagnitude
  rw [Nat.add_mul]
  omega

theorem le_unboundedMagnitude (coarse : spacing num den ≠ 0) :
    (spacing num den + 1) * binade ≤ unboundedMagnitude num den := by
  have near := Rounding.div_le_nearestEven num (den * 2 ^ spacing num den)
  have le := binade_le_div coarse
  rw [← Nat.div_div_eq_div_mul] at near
  unfold unboundedMagnitude
  rw [Nat.add_mul]
  omega

theorem unboundedMagnitude_mono (pos : 0 < den) (pos' : 0 < den') (h : num * den' ≤ num' * den) :
    unboundedMagnitude num den ≤ unboundedMagnitude num' den' := by
  have floors : num / den ≤ num' / den' := Rounding.div_mono pos pos' h
  have spacings : spacing num den ≤ spacing num' den' := by
    unfold spacing
    by_cases none : num / den = 0
    · simp [none]
    · have none' : num' / den' ≠ 0 := ((Nat.pos_of_ne_zero none).trans_le floors).ne'
      have logs : (num / den).log2 ≤ (num' / den').log2 :=
        (Nat.le_log2 none').2 ((Nat.log2_self_le none).trans floors)
      omega
  rcases Nat.lt_or_eq_of_le spacings with finer | same
  · calc unboundedMagnitude num den ≤ (spacing num den + 2) * binade := unboundedMagnitude_le ..
      _ ≤ (spacing num' den' + 1) * binade := Nat.mul_le_mul_right _ (by omega)
      _ ≤ unboundedMagnitude num' den' := le_unboundedMagnitude (by omega)
  · unfold unboundedMagnitude
    rw [same]
    refine Nat.add_le_add_left (Rounding.nearestEven_mono ?_ ?_ ?_) _
    · exact Nat.mul_pos pos (Nat.two_pow_pos _)
    · exact Nat.mul_pos pos' (Nat.two_pow_pos _)
    · rw [← Nat.mul_assoc, ← Nat.mul_assoc]
      exact Nat.mul_le_mul_right _ h

/-- **A larger quotient has no smaller nearest magnitude.** -/
theorem nearestMagnitude_mono (pos : 0 < den) (pos' : 0 < den') (h : num * den' ≤ num' * den) :
    nearestMagnitude num den ≤ nearestMagnitude num' den' := by
  have mono := unboundedMagnitude_mono pos pos' h
  rw [nearestMagnitude_eq_min, nearestMagnitude_eq_min]
  omega

/-! ## Absolute values -/

theorem unitsOf_of_lt_binade (small : m < binade) : unitsOf m = m := if_pos small

/-- The absolute value of a magnitude, counted from the start of its binade. -/
theorem unitsOf_binades {e f : Nat} (small : f < binade) :
    unitsOf ((e + 1) * binade + f) = (binade + f) * 2 ^ e := by
  have large : ¬ (e + 1) * binade + f < binade := by rw [Nat.add_mul]; omega
  have quotient : ((e + 1) * binade + f) / binade = e + 1 := by
    rw [Nat.mul_comm, Nat.mul_add_div (by decide), Nat.div_eq_of_lt small, Nat.add_zero]
  have rest : ((e + 1) * binade + f) % binade = f := by
    rw [Nat.mul_comm, Nat.mul_add_mod, Nat.mod_eq_of_lt small]
  rw [unitsOf, if_neg large, quotient, rest]
  rfl

/-- Every magnitude of a binade and more is counted from the start of one. -/
theorem exists_binades (large : binade ≤ m) :
    ∃ e f, f < binade ∧ m = (e + 1) * binade + f := by
  refine ⟨m / binade - 1, m % binade, Nat.mod_lt _ (by decide), ?_⟩
  have one : 1 ≤ m / binade := (Nat.one_le_div_iff (by decide)).2 large
  rw [Nat.sub_add_cancel one, Nat.mul_comm]
  exact (Nat.div_add_mod ..).symm

/-- The absolute value of a magnitude is its own rounding if there is no largest one. -/
theorem unboundedMagnitude_unitsOf (pos : 0 < den) :
    unboundedMagnitude (unitsOf m * den) den = m := by
  have floor : unitsOf m * den / den = unitsOf m := Nat.mul_div_cancel _ pos
  rcases Nat.lt_or_ge m binade with small | large
  · have fine : spacing (unitsOf m * den) den = 0 := by
      rw [spacing, floor, unitsOf_of_lt_binade small]
      by_cases none : m = 0
      · simp [none]
      · have := (Nat.log2_lt none).2 (binade_eq ▸ small)
        omega
    rw [unboundedMagnitude, fine, Nat.zero_mul, Nat.zero_add, Nat.pow_zero, Nat.mul_one,
      Rounding.nearestEven_mul _ _ pos, unitsOf_of_lt_binade small]
  · obtain ⟨e, f, small, rfl⟩ := exists_binades large
    have coarse : spacing (unitsOf ((e + 1) * binade + f) * den) den = e := by
      have some : (binade + f) * 2 ^ e ≠ 0 :=
        Nat.mul_ne_zero (by rw [binade_eq]; omega) (Nat.two_pow_pos e).ne'
      have log : ((binade + f) * 2 ^ e).log2 = e + 52 := by
        rw [Nat.log2_eq_iff some, binade_eq]
        rw [binade_eq] at small
        constructor
        · rw [Nat.pow_add, Nat.mul_comm]
          exact Nat.mul_le_mul_right _ (by omega)
        · rw [show e + 52 + 1 = 53 + e by omega, Nat.pow_add]
          exact Nat.mul_lt_mul_of_pos_right (by omega) (Nat.two_pow_pos e)
      rw [spacing, floor, unitsOf_binades small, log]
      omega
    rw [unboundedMagnitude, coarse, unitsOf_binades small,
      show (binade + f) * 2 ^ e * den = (binade + f) * (den * 2 ^ e) by ring,
      Rounding.nearestEven_mul _ _ (Nat.mul_pos pos (Nat.two_pow_pos e))]
    ring

/-- **The absolute value of a finite magnitude is its own rounding.** -/
theorem nearestMagnitude_unitsOf (finite : m < infinityMagnitude) (pos : 0 < den) :
    nearestMagnitude (unitsOf m * den) den = m := by
  rw [nearestMagnitude_eq_min, unboundedMagnitude_unitsOf pos]
  omega

/-- **What is no more than a finite magnitude is rounded to no more.** -/
theorem nearestMagnitude_le_of_le (finite : m < infinityMagnitude) (pos : 0 < den)
    (h : num ≤ unitsOf m * den) : nearestMagnitude num den ≤ m := by
  calc nearestMagnitude num den ≤ nearestMagnitude (unitsOf m * den) den :=
        nearestMagnitude_mono pos pos (Nat.mul_le_mul_right _ h)
    _ = m := nearestMagnitude_unitsOf finite pos

/-- **What is no less than a finite magnitude is rounded to no less.** -/
theorem le_nearestMagnitude_of_le (finite : m < infinityMagnitude) (pos : 0 < den)
    (h : unitsOf m * den ≤ num) : m ≤ nearestMagnitude num den := by
  calc m = nearestMagnitude (unitsOf m * den) den := (nearestMagnitude_unitsOf finite pos).symm
    _ ≤ nearestMagnitude num den := nearestMagnitude_mono pos pos (Nat.mul_le_mul_right _ h)

/-- A larger finite magnitude has no smaller absolute value. -/
theorem unitsOf_le_unitsOf (finite : n < infinityMagnitude) (h : m ≤ n) :
    unitsOf m ≤ unitsOf n := by
  by_contra above
  have less : unitsOf n * 1 ≤ unitsOf m * 1 := by omega
  have back := nearestMagnitude_le_of_le (h.trans_lt finite) Nat.one_pos less
  rw [nearestMagnitude_unitsOf finite Nat.one_pos] at back
  obtain rfl := Nat.le_antisymm h back
  exact above (Nat.le_refl _)

/-- A number of exactly 53 binary places times a power of two. -/
theorem unitsOf_places {e : Nat} (most : binade ≤ n) (places : n < 2 * binade) :
    unitsOf (e * binade + n) = n * 2 ^ e := by
  have rest : n - binade < binade := by omega
  have start : e * binade + n = (e + 1) * binade + (n - binade) := by
    rw [Nat.add_mul]
    omega
  rw [start, unitsOf_binades rest, Nat.add_sub_cancel' most]

/-- **The absolute value of the nearest magnitude** is a whole number of spacings. -/
theorem unitsOf_unboundedMagnitude (num den : Nat) :
    unitsOf (unboundedMagnitude num den) =
      Rounding.nearestEven num (den * 2 ^ spacing num den) * 2 ^ spacing num den := by
  have near := Rounding.nearestEven_le_succ num (den * 2 ^ spacing num den)
  have above := Rounding.div_le_nearestEven num (den * 2 ^ spacing num den)
  have places := div_lt_two_pow_spacing num den
  have coarse := @binade_le_div num den
  rw [← Nat.div_div_eq_div_mul] at near above
  unfold unboundedMagnitude
  generalize Rounding.nearestEven num (den * 2 ^ spacing num den) = n at near above ⊢
  rcases Nat.lt_or_ge n binade with below | most
  · have fine : spacing num den = 0 := by
      by_contra other
      have := coarse other
      omega
    rw [fine, Nat.zero_mul, Nat.zero_add, Nat.pow_zero, Nat.mul_one, unitsOf_of_lt_binade below]
  · rcases Nat.lt_or_ge n (2 * binade) with within | carried
    · exact unitsOf_places most within
    · -- Rounding up to the next power of two leads to the start of the next binade.
      obtain rfl : n = 2 * binade := by omega
      have next : spacing num den * binade + 2 * binade =
          (spacing num den + 1) * binade + binade := by ring
      rw [next, unitsOf_places (Nat.le_refl _) (by decide)]
      ring

/-- **The nearest magnitude is off by half a spacing at most.** -/
theorem two_mul_unitsOf_nearestMagnitude (finite : nearestMagnitude num 1 < infinityMagnitude) :
    2 * unitsOf (nearestMagnitude num 1) ≤ 2 * num + 2 ^ spacing num 1 ∧
      2 * num ≤ 2 * unitsOf (nearestMagnitude num 1) + 2 ^ spacing num 1 := by
  have unbounded : nearestMagnitude num 1 = unboundedMagnitude num 1 := by
    rw [nearestMagnitude_eq_min] at finite ⊢
    omega
  have error := Rounding.two_mul_nearestEven_mul num (Nat.two_pow_pos (spacing num 1))
  rw [unbounded, unitsOf_unboundedMagnitude, Nat.one_mul]
  exact error

/-- **Numbers of 53 binary places are absolute values of finite magnitudes.** -/
theorem exists_unitsOf_eq {e : Nat} (places : n < 2 * binade) (small : e ≤ 2045) :
    ∃ m < infinityMagnitude, unitsOf m = n * 2 ^ e := by
  rcases Nat.lt_or_ge n binade with below | above
  · -- Fewer places leave room for a factor of two, if there is one.
    induction e generalizing n with
    | zero =>
      exact ⟨n, below.trans (by decide), by rw [unitsOf_of_lt_binade below, Nat.pow_zero,
        Nat.mul_one]⟩
    | succ e ih =>
      have doubled : n * 2 ^ (e + 1) = 2 * n * 2 ^ e := by ring
      rw [doubled]
      rcases Nat.lt_or_ge (2 * n) binade with below' | above'
      · exact ih (by omega) (by omega) below'
      · refine ⟨e * binade + 2 * n, ?_, unitsOf_places above' (by omega)⟩
        have : e * binade ≤ 2045 * binade := Nat.mul_le_mul_right _ (by omega)
        rw [infinityMagnitude_eq]
        omega
  · refine ⟨e * binade + n, ?_, unitsOf_places above places⟩
    have : e * binade ≤ 2045 * binade := Nat.mul_le_mul_right _ small
    rw [infinityMagnitude_eq]
    omega

/-! ## The largest magnitude -/

/-- The units from which on a quotient is rounded to infinity: half a spacing above the greatest
finite absolute value. -/
def overflow : Nat := (2 ^ 54 - 1) * Nat.pow 2 2044

theorem overflow_eq : overflow = (2 ^ 54 - 1) * 2 ^ 2044 := by decide +kernel

theorem nearestMagnitude_overflow : nearestMagnitude overflow 1 = infinityMagnitude := by
  decide +kernel

/-- **A quotient is rounded to infinity** from half a spacing above the greatest finite absolute
value on. -/
theorem nearestMagnitude_lt_iff (pos : 0 < den) :
    nearestMagnitude num den < infinityMagnitude ↔ num < overflow * den := by
  constructor
  · intro finite
    by_contra large
    have above : overflow * den ≤ num * 1 := by omega
    have most := nearestMagnitude_mono Nat.one_pos pos above
    rw [nearestMagnitude_overflow] at most
    omega
  · intro small
    have floor : num / den < 2 ^ (2045 + 53) := by
      have below : num / den < overflow := (Nat.div_lt_iff_lt_mul pos).2 small
      exact below.trans (by decide +kernel)
    have fine : spacing num den ≤ 2044 + 1 := by
      have own := spacing_le floor
      rwa [spacing, Nat.div_one, ← spacing] at own
    suffices bounded : unboundedMagnitude num den < 2047 * binade by
      rw [nearestMagnitude_eq_min, infinityMagnitude_eq]
      omega
    rcases Nat.lt_or_eq_of_le fine with finer | coarsest
    · calc unboundedMagnitude num den ≤ (spacing num den + 2) * binade := unboundedMagnitude_le ..
        _ ≤ 2046 * binade := Nat.mul_le_mul_right _ (by omega)
        _ < 2047 * binade := by decide
    · -- In the last binade the quotient is below half a spacing under the next power of two.
      have near := (Rounding.two_mul_nearestEven_mul num
        (Nat.mul_pos pos (Nat.two_pow_pos (spacing num den)))).1
      have double (e : Nat) : 2 * ((2 ^ 54 - 1) * 2 ^ e * den) =
          (2 ^ 54 - 1) * (den * 2 ^ (e + 1)) := by ring
      have half : 2 * num < (2 ^ 54 - 1) * (den * 2 ^ spacing num den) := by
        rw [coarsest, ← double, ← overflow_eq]
        omega
      have less : Rounding.nearestEven num (den * 2 ^ spacing num den) < 2 * binade := by
        by_contra carried
        have most := Nat.mul_le_mul_right (den * 2 ^ spacing num den) (Nat.le_of_not_lt carried)
        rw [binade_eq] at most
        omega
      have start : spacing num den * binade = 2045 * binade := by rw [coarsest]
      rw [unboundedMagnitude]
      omega

end

end Binary64
end Gradebook
