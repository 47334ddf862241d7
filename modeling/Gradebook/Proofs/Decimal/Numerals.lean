/-
# Numerals

A numeral is a row of digits with one point at most before, among or after them. Of the texts that
have no characters but digits and points these and no others are read as decimals, each as the
decimal that it writes (`Decimal.read?_eq_some_iff`).
-/

import Gradebook.Decimal.Reading
import Gradebook.Proofs.Text.Runs
import Mathlib.Tactic.Common

namespace Gradebook
namespace Decimal

/-- **A row of digits,** with one point at most. -/
structure IsNumeral (s : List Char) : Prop where
  chars : ∀ c ∈ s, c.isDigit = true ∨ c = '.'
  onePoint : s.count '.' ≤ 1
  someDigit : ∃ c ∈ s, c.isDigit = true

/-- **The decimal of a numeral:** all its digits, of which those after the point are decimal
places. -/
def ofNumeral (s : List Char) : Decimal :=
  ⟨digitsValue 0 (s.filter Char.isDigit),
    -(((s.dropWhile (· ≠ '.')).filter Char.isDigit).length : Int)⟩

theorem digitsValue_append (start : Nat) (xs ys : List Char) :
    digitsValue start (xs ++ ys) = digitsValue (digitsValue start xs) ys :=
  List.foldl_append

/-- The value of a row of digits is the one that the library has. -/
theorem digitsValue_eq_ofDigitChars (start : Nat) (digits : List Char) :
    digitsValue start digits = Nat.ofDigitChars 10 digits start := by
  simp only [digitsValue, Nat.ofDigitChars, Nat.mul_comm]

/-! ## Digits around a point -/

/-- Digits and points start with a row of digits that ends at a point if at all. -/
theorem exists_digits_append {s : List Char} (chars : ∀ c ∈ s, c.isDigit = true ∨ c = '.') :
    ∃ digits rest, s = digits ++ rest ∧ (∀ c ∈ digits, c.isDigit = true) ∧
      (rest = [] ∨ ∃ tail, rest = '.' :: tail) := by
  induction s with
  | nil => exact ⟨[], [], rfl, by simp, .inl rfl⟩
  | cons c s ih =>
    rcases chars c List.mem_cons_self with digit | rfl
    · obtain ⟨digits, rest, rfl, all, ends⟩ := ih fun d mem => chars d (List.mem_cons_of_mem _ mem)
      exact ⟨c :: digits, rest, rfl, by simpa [digit] using all, ends⟩
    · exact ⟨[], '.' :: s, rfl, by simp, .inr ⟨s, rfl⟩⟩

section

variable {digits : List Char} (all : ∀ c ∈ digits, c.isDigit = true)

include all

theorem point_notMem_of_all : '.' ∉ digits :=
  fun mem => absurd (all '.' mem) (by decide)

theorem spanDigits_of_all : spanDigits digits = (digits, []) := by
  rw [spanDigits, List.span_eq_takeWhile_dropWhile, List.takeWhile_eq_self_iff.2 all,
    List.dropWhile_eq_nil_iff.2 all]

end

section

variable {whole fraction rest : List Char} (allWhole : ∀ c ∈ whole, c.isDigit = true)
  (allFraction : ∀ c ∈ fraction, c.isDigit = true)

include allWhole

theorem isNumeral_digits_iff : IsNumeral whole ↔ whole ≠ [] := by
  constructor
  · rintro ⟨-, -, c, mem, -⟩
    exact List.ne_nil_of_mem mem
  · intro some
    obtain ⟨c, mem⟩ := List.exists_mem_of_ne_nil whole some
    refine ⟨fun c mem => .inl (allWhole c mem), ?_, c, mem, allWhole c mem⟩
    rw [List.count_eq_zero.2 (point_notMem_of_all allWhole)]
    exact Nat.zero_le 1

theorem ofNumeral_digits : ofNumeral whole = ⟨digitsValue 0 whole, 0⟩ := by
  have nothing : whole.dropWhile (· ≠ '.') = [] :=
    List.dropWhile_eq_nil_iff.2 (decide_ne_of_notMem (point_notMem_of_all allWhole))
  rw [ofNumeral, List.filter_eq_self.2 allWhole, nothing]
  rfl

/-- A row of digits without a point. -/
theorem read?_digits : read? whole = if whole = [] then none else some (ofNumeral whole) := by
  rw [read?, spanDigits_of_all allWhole, ofNumeral_digits allWhole]
  by_cases none : whole = []
  · subst none
    rfl
  · simp [none, exponent?, digitsValue]

include allFraction

theorem ofNumeral_point : ofNumeral (whole ++ '.' :: fraction) =
    ⟨digitsValue 0 (whole ++ fraction), -(fraction.length : Int)⟩ := by
  have digits : (whole ++ '.' :: fraction).filter Char.isDigit = whole ++ fraction := by
    rw [List.filter_append, List.filter_eq_self.2 allWhole, List.filter_cons_of_neg (by decide),
      List.filter_eq_self.2 allFraction]
  have places : (whole ++ '.' :: fraction).dropWhile (· ≠ '.') = '.' :: fraction :=
    dropWhile_append_of_ends (decide_ne_of_notMem (point_notMem_of_all allWhole)) (by simp)
  rw [ofNumeral, digits, places, List.filter_cons_of_neg (by decide),
    List.filter_eq_self.2 allFraction]

theorem isNumeral_point_iff :
    IsNumeral (whole ++ '.' :: fraction) ↔ ¬ (whole = [] ∧ fraction = []) := by
  constructor
  · rintro ⟨-, -, c, mem, digit⟩ ⟨rfl, rfl⟩
    rw [List.nil_append, List.mem_singleton] at mem
    subst mem
    exact absurd digit (by decide)
  · intro some
    refine ⟨?_, ?_, ?_⟩
    · intro c mem
      rcases List.mem_append.1 mem with mem | mem
      · exact .inl (allWhole c mem)
      · rcases List.mem_cons.1 mem with rfl | mem
        · exact .inr rfl
        · exact .inl (allFraction c mem)
    · rw [List.count_append, List.count_cons_self,
        List.count_eq_zero.2 (point_notMem_of_all allWhole),
        List.count_eq_zero.2 (point_notMem_of_all allFraction)]
    · rw [← List.append_eq_nil_iff] at some
      obtain ⟨c, mem⟩ := List.exists_mem_of_ne_nil _ some
      rcases List.mem_append.1 mem with mem | mem
      · exact ⟨c, List.mem_append_left _ mem, allWhole c mem⟩
      · exact ⟨c, List.mem_append_right _ (List.mem_cons_of_mem _ mem), allFraction c mem⟩

/-- A row of digits with a point. -/
theorem read?_point : read? (whole ++ '.' :: fraction) =
    if whole = [] ∧ fraction = [] then none
    else some (ofNumeral (whole ++ '.' :: fraction)) := by
  have spanned : spanDigits (whole ++ '.' :: fraction) = (whole, '.' :: fraction) :=
    span_append_of_ends allWhole (by simp)
  rw [read?, spanned, ofNumeral_point allWhole allFraction]
  simp [spanDigits_of_all allFraction, exponent?, digitsValue_append]

/-- A second point ends the number where nothing else than an exponent may follow. -/
theorem read?_twoPoints :
    read? (whole ++ '.' :: (fraction ++ '.' :: rest)) = none := by
  have spanned : spanDigits (whole ++ '.' :: (fraction ++ '.' :: rest)) =
      (whole, '.' :: (fraction ++ '.' :: rest)) :=
    span_append_of_ends allWhole (by simp)
  have spannedRest : spanDigits (fraction ++ '.' :: rest) = (fraction, '.' :: rest) :=
    span_append_of_ends allFraction (by simp)
  rw [read?, spanned]
  simp [spannedRest, exponent?]

end

/-- **Digits and points are read** exactly if they are a numeral, and as what it writes. -/
theorem read?_eq_some_iff {s : List Char} (chars : ∀ c ∈ s, c.isDigit = true ∨ c = '.')
    {d : Decimal} : read? s = some d ↔ IsNumeral s ∧ d = ofNumeral s := by
  obtain ⟨whole, rest, rfl, allWhole, rfl | ⟨tail, rfl⟩⟩ := exists_digits_append chars
  · rw [List.append_nil, read?_digits allWhole, isNumeral_digits_iff allWhole]
    split
    · next none => simp [none]
    · next some => simp [some, eq_comm]
  · have charsTail : ∀ c ∈ tail, c.isDigit = true ∨ c = '.' := fun c mem =>
      chars c (List.mem_append_right _ (List.mem_cons_of_mem _ mem))
    obtain ⟨fraction, rest, rfl, allFraction, rfl | ⟨tail, rfl⟩⟩ := exists_digits_append charsTail
    · rw [List.append_nil, read?_point allWhole allFraction,
        isNumeral_point_iff allWhole allFraction]
      split
      · next none => simp [none]
      · next some => simp [some, eq_comm]
    · rw [read?_twoPoints allWhole allFraction]
      refine ⟨nofun, fun ⟨numeral, _⟩ => ?_⟩
      have points := numeral.onePoint
      simp only [List.count_append, List.count_cons_self] at points
      omega

end Decimal
end Gradebook
