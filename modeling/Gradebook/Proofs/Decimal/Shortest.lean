/-
# Seventeen digits are enough

Decimals with seventeen digits are closer to one another than a binary64 number is to its two
neighbours together, so one of the two that are next to it reads back. The search among the grids
thus always ends with a decimal that reads back, and taking zeros off changes no value
(`Decimal.readsBack_shortest`).
-/

import Gradebook.Decimal.Shortest
import Gradebook.Proofs.Binary64.Bounds
import Mathlib.Algebra.Order.Field.Rat
import Mathlib.Data.Nat.Cast.Order.Field
import Mathlib.Tactic.Linarith
import Mathlib.Tactic.Qify

namespace Gradebook

/-! ## Neighbours -/

namespace Binary64

variable {m n : Nat}

/-- The end of a binade is the start of the next one. -/
theorem unitsOf_places_le {e : Nat} (most : binade ≤ n) (places : n ≤ 2 * binade) :
    unitsOf (e * binade + n) = n * 2 ^ e := by
  rcases Nat.eq_or_lt_of_le places with rfl | less
  · have start : e * binade + 2 * binade = (e + 1) * binade + binade := by ring
    rw [start, unitsOf_places (le_refl _) (by decide), Nat.pow_succ]
    ring
  · exact unitsOf_places most less

/-- A number is either small or has exactly 53 binary places. -/
theorem exists_places (large : binade ≤ m) :
    ∃ e n, binade ≤ n ∧ n < 2 * binade ∧ m = e * binade + n := by
  obtain ⟨e, f, less, rfl⟩ := exists_binades large
  exact ⟨e, binade + f, Nat.le_add_right .., by omega, by ring⟩

theorem unitsOf_lt_succ (m : Nat) : unitsOf m < unitsOf (m + 1) := by
  rcases Nat.lt_or_ge m binade with small | large
  · rw [unitsOf_of_lt_binade small]
    rcases Nat.eq_or_lt_of_le (Nat.succ_le_of_lt small) with last | less
    · have start : unitsOf (0 * binade + (m + 1)) = (m + 1) * 2 ^ 0 :=
        unitsOf_places_le last.ge (by omega)
      rw [Nat.zero_mul, Nat.zero_add] at start
      omega
    · rw [unitsOf_of_lt_binade less]
      omega
  · obtain ⟨e, n, most, places, rfl⟩ := exists_places large
    rw [unitsOf_places most places, Nat.add_assoc, unitsOf_places_le (by omega) (by omega)]
    exact Nat.mul_lt_mul_of_pos_right (Nat.lt_succ_self n) (Nat.two_pow_pos e)

/-- **Neighbours are far apart** against what lies between: by more than `2 / 10 ^ 16` of it. -/
theorem unitsOf_neighbours (pos : 0 < m) :
    2 * unitsOf m + 10 ^ 16 * unitsOf (m - 1) < 10 ^ 16 * unitsOf (m + 1) := by
  rcases Nat.lt_or_ge m binade with small | large
  · have above := unitsOf_lt_succ m
    rw [unitsOf_of_lt_binade small] at above ⊢
    rw [unitsOf_of_lt_binade (by omega)]
    rw [binade_eq] at small
    omega
  obtain ⟨e, n, most, places, rfl⟩ := exists_places large
  have next : unitsOf (e * binade + n + 1) = (n + 1) * 2 ^ e := by
    rw [Nat.add_assoc, unitsOf_places_le (by omega) (by omega)]
  rw [next, unitsOf_places most places]
  rcases Nat.eq_or_lt_of_le most with rfl | more
  · -- At the start of a binade the neighbour below is half as far away as the one above.
    cases e with
    | zero =>
      rw [Nat.zero_mul, Nat.zero_add, unitsOf_of_lt_binade (by decide)]
      decide
    | succ e =>
      have back : (e + 1) * binade + binade - 1 = e * binade + (2 * binade - 1) := by
        rw [Nat.succ_mul, binade_eq]
        omega
      rw [back, unitsOf_places (by decide) (by decide), Nat.pow_succ, binade_eq]
      have one := Nat.two_pow_pos e
      generalize 2 ^ e = w at one ⊢
      omega
  · have back : e * binade + n - 1 = e * binade + (n - 1) := by omega
    rw [back, unitsOf_places (by omega) (by omega)]
    have one := Nat.two_pow_pos e
    rw [binade_eq] at places more
    generalize 2 ^ e = w at one ⊢
    calc 2 * (n * w) + 10 ^ 16 * ((n - 1) * w) = (2 * n + 10 ^ 16 * (n - 1)) * w := by ring
      _ < (10 ^ 16 * (n + 1)) * w := Nat.mul_lt_mul_of_pos_right (by omega) one
      _ = 10 ^ 16 * ((n + 1) * w) := by ring

end Binary64

/-! ## Places -/

namespace Decimal

/-- **The exact value** of a decimal. -/
def value (d : Decimal) : ℚ := d.digits * 10 ^ d.exponent

theorem fraction_pos (digits : Nat) (exponent : Int) : 0 < (fraction digits exponent).2 := by
  unfold fraction
  split
  · exact Nat.one_pos
  · exact Nat.pow_pos (by decide)

theorem cast_fraction (digits : Nat) (exponent : Int) :
    ((fraction digits exponent).1 : ℚ) / (fraction digits exponent).2 =
      digits * 10 ^ exponent := by
  unfold fraction
  split
  · next whole =>
    lift exponent to ℕ using whole
    simp
  · next part =>
    obtain ⟨places, rfl⟩ : ∃ places : ℕ, exponent = -places := ⟨exponent.natAbs, by omega⟩
    simp [div_eq_mul_inv]

theorem lt_ten_pow_length (n : Nat) : n < 10 ^ length n :=
  (Nat.length_toDigits_le_iff (by decide) Nat.length_toDigits_pos).1 (le_refl _)

theorem ten_pow_le_of_pos {n : Nat} (pos : 0 < n) : 10 ^ (length n - 1) ≤ n := by
  rcases Nat.eq_zero_or_pos (length n - 1) with one | more
  · rw [one]
    exact pos
  · by_contra less
    have short := (Nat.length_toDigits_le_iff (by decide) more).2 (Nat.lt_of_not_le less)
    change length n ≤ length n - 1 at short
    omega

/-- **The place of a quotient** is no higher than the quotient. -/
theorem ten_zpow_place_le {num den : Nat} (pos : 0 < num) (posDen : 0 < den) :
    (10 : ℚ) ^ place num den ≤ num / den := by
  have posQ : (0 : ℚ) < den := Nat.cast_pos.2 posDen
  unfold place
  split
  · next le =>
    have one : 1 ≤ length (num / den) := Nat.length_toDigits_pos
    have power := ten_pow_le_of_pos (Nat.div_pos le posDen)
    rw [← Nat.cast_one, ← Nat.cast_sub one, zpow_natCast]
    calc (10 : ℚ) ^ (length (num / den) - 1) ≤ (num / den : Nat) := by exact_mod_cast power
      _ ≤ num / den := Nat.cast_div_le
  · next less =>
    have power := (Nat.div_lt_iff_lt_mul pos).1 (lt_ten_pow_length ((den - 1) / num))
    have whole : den ≤ 10 ^ length ((den - 1) / num) * num := by omega
    rw [zpow_neg, zpow_natCast, le_div_iff₀ posQ, inv_mul_le_iff₀ (by positivity)]
    exact_mod_cast whole

/-- **A grid of seventeen digits** is finer than `1 / 10 ^ 16` of the number. -/
theorem step_le {m num den : Nat} (pos : 0 < Binary64.unitsOf m)
    (grid : fraction 1 (place (Binary64.unitsOf m) Binary64.unitsPerOne - 17 + 1) = (num, den)) :
    10 ^ 16 * (num * Binary64.unitsPerOne) ≤ Binary64.unitsOf m * den := by
  have posOne := Binary64.unitsPerOne_pos
  have below := ten_zpow_place_le pos posOne
  generalize Binary64.unitsPerOne = one at below posOne grid ⊢
  generalize place (Binary64.unitsOf m) one = p at below grid
  have value := cast_fraction 1 (p - 17 + 1)
  have posDen := fraction_pos 1 (p - 17 + 1)
  rw [grid] at value posDen
  have posDenQ : (0 : ℚ) < den := Nat.cast_pos.2 posDen
  have posOneQ : (0 : ℚ) < one := Nat.cast_pos.2 posOne
  have finer : (10 : ℚ) ^ 16 * (num / den) = 10 ^ p := by
    rw [value, Nat.cast_one, one_mul, ← zpow_natCast, ← zpow_add₀ (by norm_num)]
    congr 1
    omega
  rw [← finer, le_div_iff₀ posOneQ, mul_div_assoc', div_mul_eq_mul_div, div_le_iff₀ posDenQ]
    at below
  qify
  linarith

/-! ## Points of a grid -/

variable {halfUp : Bool} {m : Nat}

/-- Of the two multiples of a step next to a number one is nearer to it than half the gap there. -/
theorem multiple_between {low here high step : Nat} (pos : 0 < step) (below : low < here)
    (above : here < high) (wide : low + 2 * step < high) :
    (low + here < 2 * (here / step * step) ∧ 2 * (here / step * step) < here + high) ∨
      (low + here < 2 * ((here / step + 1) * step) ∧
        2 * ((here / step + 1) * step) < here + high) := by
  have split := Nat.div_add_mod here step
  have rest := Nat.mod_lt here pos
  have next : (here / step + 1) * step = here / step * step + step := Nat.succ_mul ..
  rw [Nat.mul_comm] at split
  omega

theorem readsBack_of_onGrid? {exponent : Int} {d : Decimal}
    (found : onGrid? halfUp m exponent = some d) : readsBack m d = true := by
  unfold onGrid? at found
  dsimp only at found
  split at found
  · next lower upper =>
    cases found
    split
    · exact upper
    · exact lower
  · next lower _ =>
    cases found
    exact lower
  · next _ upper =>
    cases found
    exact upper
  · cases found

section

variable {exponent : Int} {num den : Nat} (grid : fraction 1 exponent = (num, den))

include grid

theorem fraction_of_grid (point : Nat) : fraction point exponent = (point * num, den) := by
  unfold fraction at grid ⊢
  split at grid
  · cases grid
    rw [if_pos ‹_›, Nat.one_mul]
  · cases grid
    rw [if_neg ‹_›, Nat.mul_one]

theorem num_pos_of_grid : 0 < num := by
  unfold fraction at grid
  split at grid
  · cases grid
    exact Nat.mul_pos Nat.one_pos (Nat.pow_pos (by decide))
  · cases grid
    exact Nat.one_pos

theorem readsBack_of_between {point : Nat}
    (low : Binary64.unitsOf (m - 1) * den + Binary64.unitsOf m * den <
      2 * (point * (num * Binary64.unitsPerOne)))
    (high : 2 * (point * (num * Binary64.unitsPerOne)) <
      Binary64.unitsOf m * den + Binary64.unitsOf (m + 1) * den) :
    readsBack m ⟨point, exponent⟩ = true := by
  have doubled : point * num * halvesPerOne = 2 * (point * (num * Binary64.unitsPerOne)) := by
    unfold halvesPerOne
    ring
  rw [← Nat.add_mul, ← doubled] at low high
  unfold readsBack
  dsimp only
  rw [fraction_of_grid grid]
  dsimp only
  split
  · exact Bool.and_eq_true_iff.2 ⟨decide_eq_true low.le, decide_eq_true high.le⟩
  · exact Bool.and_eq_true_iff.2 ⟨decide_eq_true low, decide_eq_true high⟩

/-- **A grid that is fine enough** has a point that reads back. -/
theorem exists_onGrid?_eq (pos : 0 < m)
    (fine : 10 ^ 16 * (num * Binary64.unitsPerOne) ≤ Binary64.unitsOf m * den) :
    ∃ d, onGrid? halfUp m exponent = some d := by
  have posNum := num_pos_of_grid grid
  have posDen : 0 < den := by simpa only [grid] using fraction_pos 1 exponent
  have below := Binary64.unitsOf_lt_succ (m - 1)
  rw [Nat.sub_add_cancel pos] at below
  have below := Nat.mul_lt_mul_of_pos_right below posDen
  have above := Nat.mul_lt_mul_of_pos_right (Binary64.unitsOf_lt_succ m) posDen
  have apart := Nat.mul_lt_mul_of_pos_right (Binary64.unitsOf_neighbours pos) posDen
  rw [Nat.add_mul, Nat.mul_assoc, Nat.mul_assoc, Nat.mul_assoc] at apart
  have between := multiple_between (Nat.mul_pos posNum Binary64.unitsPerOne_pos) below above
    (by omega)
  unfold onGrid?
  dsimp only
  rw [grid]
  dsimp only
  split
  · exact ⟨_, rfl⟩
  · exact ⟨_, rfl⟩
  · exact ⟨_, rfl⟩
  · next lower upper =>
    rcases between with ⟨low, high⟩ | ⟨low, high⟩
    · cases lower.symm.trans (readsBack_of_between grid low high)
    · cases upper.symm.trans (readsBack_of_between grid low high)

end

/-! ## The search -/

/-- **The search finds a decimal that reads back** if one of its grids has one. -/
theorem readsBack_search {p : Int} {fuel count : Nat} (last : Nat) (first : count ≤ last)
    (within : last < count + fuel)
    (found : ∃ d, onGrid? halfUp m (p - last + 1) = some d) :
    readsBack m (search halfUp m p fuel count) = true := by
  induction fuel generalizing count with
  | zero => omega
  | succ fuel ih =>
    unfold search
    split
    · next d here => exact readsBack_of_onGrid? here
    · next none =>
      refine ih ?_ (by omega)
      rcases Nat.eq_or_lt_of_le first with rfl | later
      · obtain ⟨d, here⟩ := found
        cases none.symm.trans here
      · exact later

/-- What reads back depends on its value only, which is compared with two midpoints. -/
theorem readsBack_iff {d : Decimal} :
    readsBack m d = true ↔
      if m % 2 = 0 then
        (Binary64.unitsOf (m - 1) + Binary64.unitsOf m : Nat) ≤ d.value * halvesPerOne ∧
          d.value * halvesPerOne ≤ (Binary64.unitsOf m + Binary64.unitsOf (m + 1) : Nat)
      else
        (Binary64.unitsOf (m - 1) + Binary64.unitsOf m : Nat) < d.value * halvesPerOne ∧
          d.value * halvesPerOne < (Binary64.unitsOf m + Binary64.unitsOf (m + 1) : Nat) := by
  have pos := fraction_pos d.digits d.exponent
  have value := cast_fraction d.digits d.exponent
  unfold readsBack Decimal.value
  rw [← value]
  generalize fraction d.digits d.exponent = quotient at pos ⊢
  obtain ⟨num, den⟩ := quotient
  dsimp only at pos ⊢
  have posQ : (0 : ℚ) < den := Nat.cast_pos.2 pos
  rw [div_mul_eq_mul_div, le_div_iff₀ posQ, div_le_iff₀ posQ, lt_div_iff₀ posQ, div_lt_iff₀ posQ]
  split
  · rw [Bool.and_eq_true_iff, decide_eq_true_iff, decide_eq_true_iff]
    norm_cast
  · rw [Bool.and_eq_true_iff, decide_eq_true_iff, decide_eq_true_iff]
    norm_cast

theorem value_strip (d : Decimal) : (strip d).value = d.value := by
  fun_induction strip d with
  | case1 d more ih =>
    have whole : ((d.digits / 10 : Nat) : ℚ) * 10 = d.digits := by
      exact_mod_cast Nat.div_mul_cancel (Nat.dvd_of_mod_eq_zero more.2)
    rw [ih]
    unfold value
    rw [zpow_add₀ (by norm_num), zpow_one, ← whole]
    ring
  | case2 => rfl

/-- **The shortest decimal reads back.** -/
theorem readsBack_shortest (pos : 0 < m) : readsBack m (shortest halfUp m) = true := by
  have units : 0 < Binary64.unitsOf m := by
    have above := Binary64.unitsOf_lt_succ (m - 1)
    rw [Nat.sub_add_cancel pos] at above
    exact Nat.zero_lt_of_lt above
  have found : ∃ d, onGrid? halfUp m
      (place (Binary64.unitsOf m) Binary64.unitsPerOne - 17 + 1) = some d := by
    rcases grid : fraction 1 (place (Binary64.unitsOf m) Binary64.unitsPerOne - 17 + 1)
      with ⟨num, den⟩
    exact exists_onGrid?_eq grid pos (step_le units grid)
  unfold shortest
  rw [if_neg pos.ne']
  generalize place (Binary64.unitsOf m) Binary64.unitsPerOne = p at found ⊢
  rw [readsBack_iff, value_strip, ← readsBack_iff]
  exact readsBack_search 17 (by decide) (by decide) found

end Decimal
end Gradebook
