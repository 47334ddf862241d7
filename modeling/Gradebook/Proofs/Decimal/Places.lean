/-
# Numbers with a fixed number of places

A whole count of `10 ^ -places` is written with all its digits, of which the last `places` are
behind the point, with zeros in front if there are too few (`Decimal.exists_isFixed_fixedText`). A
finite number is written as its sign and the count nearest to its absolute value, a tie going to the
even count (`Binary64.writes_fixed`).
-/

import Gradebook.Decimal.Fixed
import Gradebook.Proofs.Binary64.Unsigned
import Gradebook.Proofs.Decimal.Numerals
import Mathlib.Tactic.Qify

namespace Gradebook

/-! ## The nearest count -/

namespace Rounding

/-- **The whole number nearest to a value,** of two the even one. -/
structure IsNearest (n : Nat) (x : ℚ) : Prop where
  within : |(n : ℚ) - x| ≤ 1 / 2
  tie : |(n : ℚ) - x| = 1 / 2 → n % 2 = 0

/-- The odd one of two nearest whole numbers is not taken. -/
theorem even_nearestEven_of_tie {num den : Nat} (pos : 0 < den)
    (tie : 2 * (nearestEven num den * den) = 2 * num + den ∨
      2 * num = 2 * (nearestEven num den * den) + den) : nearestEven num den % 2 = 0 := by
  have split := Nat.div_add_mod num den
  have rest := Nat.mod_lt num pos
  have next : (num / den + 1) * den = num / den * den + den := Nat.succ_mul ..
  rw [Nat.mul_comm] at split
  unfold nearestEven at tie ⊢
  simp only at tie ⊢
  split_ifs at tie ⊢ <;> omega

theorem isNearest_nearestEven (num : Nat) {den : Nat} (pos : 0 < den) :
    IsNearest (nearestEven num den) (num / den) := by
  have posDen : (0 : ℚ) < den := Nat.cast_pos.2 pos
  have error : |(nearestEven num den : ℚ) - num / den| =
      |((nearestEven num den * den : Nat) : ℚ) - num| / den := by
    rw [← abs_of_pos posDen, ← abs_div, abs_of_pos posDen, Nat.cast_mul, sub_div,
      mul_div_cancel_right₀ _ posDen.ne']
  obtain ⟨upper, lower⟩ := two_mul_nearestEven_mul num pos
  refine ⟨?_, fun tie => even_nearestEven_of_tie pos ?_⟩
  · qify at upper lower
    rw [error, div_le_div_iff₀ posDen two_pos, ← le_div_iff₀ two_pos, abs_le]
    push_cast
    constructor <;> linarith
  · rw [error, div_eq_div_iff posDen.ne' two_ne_zero] at tie
    rcases abs_cases (((nearestEven num den * den : Nat) : ℚ) - num) with ⟨above, -⟩ | ⟨below, -⟩
    · refine .inl ?_
      rw [above] at tie
      qify
      push_cast at tie
      linarith
    · refine .inr ?_
      rw [below] at tie
      qify
      push_cast at tie
      linarith

end Rounding

/-! ## Digits around a point -/

namespace Decimal

/-- **The digits of a count** around a point before the last `places` of them and behind
another. -/
structure IsFixed (places count : Nat) (whole fraction : List Char) : Prop where
  some : whole ≠ []
  length : fraction.length = places
  digits : ∀ c ∈ whole ++ fraction, c.isDigit = true
  value : digitsValue 0 (whole ++ fraction) = count

/-- A row of digits around a point. -/
theorem isFixed_take_drop {places : Nat} {s : List Char} (long : places < s.length)
    (digits : ∀ c ∈ s, c.isDigit = true) :
    IsFixed places (digitsValue 0 s) (s.take (s.length - places)) (s.drop (s.length - places)) where
  some := List.ne_nil_of_length_pos (by rw [List.length_take]; omega)
  length := by rw [List.length_drop]; omega
  digits := by rwa [List.take_append_drop]
  value := by rw [List.take_append_drop]

theorem digitsValue_zeros (n : Nat) (s : List Char) :
    digitsValue 0 (List.replicate n '0' ++ s) = digitsValue 0 s := by
  induction n with
  | zero => rfl
  | succ n ih => exact ih

theorem digitsValue_toDigits (count : Nat) : digitsValue 0 (Nat.toDigits 10 count) = count := by
  rw [digitsValue_eq_ofDigitChars, Nat.ofDigitChars_ten_toDigits]

/-- **A count is written with all its digits.** -/
theorem exists_isFixed_fixedText (count places : Nat) : ∃ whole fraction,
    fixedText count places = whole ++ '.' :: fraction ∧ IsFixed places count whole fraction := by
  have long : places <
      (List.replicate (places + 1 - (Nat.toDigits 10 count).length) '0' ++
        Nat.toDigits 10 count).length := by
    rw [List.length_append, List.length_replicate]
    omega
  have fixed := isFixed_take_drop long fun c mem => by
    rcases List.mem_append.1 mem with zero | digit
    · rw [List.eq_of_mem_replicate zero]
      decide
    · exact Nat.isDigit_of_mem_toDigits (by decide) le_rfl digit
  rw [digitsValue_zeros, digitsValue_toDigits] at fixed
  exact ⟨_, _, rfl, fixed⟩

end Decimal

namespace Binary64

variable {x : Binary64} {places : Nat}

/-- **A finite number written with a fixed number of places:** its sign and the digits of the count
nearest to its absolute value. -/
def Writes (places : Nat) (x : Binary64) (text : String) : Prop :=
  ∃ count whole fraction, Rounding.IsNearest count (|x.value| * 10 ^ places) ∧
    Decimal.IsFixed places count whole fraction ∧
    text.toList = (if x.negative then ['-'] else []) ++ whole ++ '.' :: fraction

theorem abs_value (x : Binary64) : |x.value| = (x.units : ℚ) / (unitsPerOne : ℚ) := by
  rw [value, abs_div, Nat.abs_cast, ← natAbs_signedUnits, Nat.cast_natAbs, Int.cast_abs]

theorem writes_fixed (finite : x.isFinite = true) : x.Writes places (x.fixed places) := by
  obtain ⟨whole, fraction, text, fixed⟩ :=
    Decimal.exists_isFixed_fixedText (x.countOfPlaces places) places
  refine ⟨_, whole, fraction, ?_, fixed, ?_⟩
  · have nearest := Rounding.isNearest_nearestEven (x.units * Nat.pow 10 places) unitsPerOne_pos
    have count : |x.value| * 10 ^ places =
        ((x.units * Nat.pow 10 places : Nat) : ℚ) / (unitsPerOne : ℚ) := by
      rw [abs_value, Nat.cast_mul, Nat.pow_eq, Nat.cast_pow, Nat.cast_ofNat, div_mul_eq_mul_div]
    rw [count]
    exact nearest
  · rw [Binary64.fixed, isNaN_of_isFinite finite, isInfinite_of_isFinite finite, text]
    cases x.negative <;> simp

end Binary64
end Gradebook
