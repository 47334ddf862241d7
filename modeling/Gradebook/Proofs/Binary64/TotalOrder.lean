/-
# The total order of data

`Binary64.TotalLE` orders all data by the rules of floating-point arithmetic. Numbers are in the
order of their values, and of the two zeros the negative one comes first. Data that are not numbers
are outside of the numbers, on the side of their sign, and the larger their payload the further out;
the topmost bit of a payload tells quiet data from signaling ones. The comparison goes by a code for
each bit pattern instead, and has the same result (`Binary64.totalCompare_isLE_iff`).
-/

import Gradebook.Proofs.Binary64.Order
import Mathlib.Order.Compare

namespace Gradebook
namespace Binary64

/-- **The total order of data,** rule by rule. -/
inductive TotalLE (x y : Binary64) : Prop
  | less : x.lt y = true → TotalLE x y
  | equal : x.numericEq y = true → (y.negative = true → x.negative = true) → TotalLE x y
  | below : x.isNaN = true → x.negative = true → (y.isNaN = true → y.negative = false) →
    TotalLE x y
  | above : y.isNaN = true → y.negative = false → (x.isNaN = true → x.negative = true) →
    TotalLE x y
  | payloadsBelow : x.isNaN = true → y.isNaN = true → x.negative = true → y.negative = true →
    y.magnitude ≤ x.magnitude → TotalLE x y
  | payloadsAbove : x.isNaN = true → y.isNaN = true → x.negative = false → y.negative = false →
    x.magnitude ≤ y.magnitude → TotalLE x y

section

variable {x y : Binary64}

theorem lt_iff : x.lt y = true ↔
    x.isNaN = false ∧ y.isNaN = false ∧ x.numericKey < y.numericKey := by
  simp [lt, and_assoc]

theorem isNaN_iff : x.isNaN = true ↔ infinityMagnitude < x.magnitude := by
  simp [isNaN]

/-- The code of a negative datum is one below its order code, so that the two zeros are apart. -/
theorem totalKey_of_negative (sign : x.negative = true) :
    x.totalKey = x.numericKey - 1 ∧ x.numericKey = -x.magnitude := by
  simp [totalKey, numericKey, sign]

theorem totalKey_of_positive (sign : x.negative = false) :
    x.totalKey = x.numericKey ∧ x.numericKey = x.magnitude := by
  simp [totalKey, numericKey, sign]

theorem totalLE_of_numericKey_le (numberX : x.isNaN = false) (numberY : y.isNaN = false)
    (le : x.numericKey ≤ y.numericKey) (zeros : y.negative = true → x.negative = true) :
    x.TotalLE y := by
  rcases Int.lt_or_eq_of_le le with less | same
  · exact .less (lt_iff.2 ⟨numberX, numberY, less⟩)
  · exact .equal (by simp [numericEq, numberX, numberY, same]) zeros

theorem totalLE_of_totalKey_le (le : x.totalKey ≤ y.totalKey) : x.TotalLE y := by
  cases signX : x.negative <;> cases signY : y.negative
  · obtain ⟨codeX, keyX⟩ := totalKey_of_positive signX
    obtain ⟨codeY, keyY⟩ := totalKey_of_positive signY
    cases nanX : x.isNaN <;> cases nanY : y.isNaN
    · exact totalLE_of_numericKey_le nanX nanY (by omega) (by simp [signY])
    · exact .above nanY signY (by simp [nanX])
    · have := isNaN_iff.1 nanX
      have := isNaN_eq_false_iff.1 nanY
      omega
    · exact .payloadsAbove nanX nanY signX signY (by omega)
  · obtain ⟨codeX, keyX⟩ := totalKey_of_positive signX
    obtain ⟨codeY, keyY⟩ := totalKey_of_negative signY
    omega
  · obtain ⟨codeX, keyX⟩ := totalKey_of_negative signX
    obtain ⟨codeY, keyY⟩ := totalKey_of_positive signY
    cases nanX : x.isNaN <;> cases nanY : y.isNaN
    · exact totalLE_of_numericKey_le nanX nanY (by omega) fun _ => signX
    · exact .above nanY signY fun _ => signX
    · exact .below nanX signX fun _ => signY
    · exact .below nanX signX fun _ => signY
  · obtain ⟨codeX, keyX⟩ := totalKey_of_negative signX
    obtain ⟨codeY, keyY⟩ := totalKey_of_negative signY
    cases nanX : x.isNaN <;> cases nanY : y.isNaN
    · exact totalLE_of_numericKey_le nanX nanY (by omega) fun _ => signX
    · have := isNaN_eq_false_iff.1 nanX
      have := isNaN_iff.1 nanY
      omega
    · exact .below nanX signX (by simp [nanY])
    · exact .payloadsBelow nanX nanY signX signY (by omega)

theorem totalKey_le_of_totalLE (le : x.TotalLE y) : x.totalKey ≤ y.totalKey := by
  have upper : x.totalKey ≤ x.numericKey := by
    cases signX : x.negative with
    | true =>
      have := totalKey_of_negative signX
      omega
    | false => exact (totalKey_of_positive signX).1.le
  cases le with
  | less less =>
    have := (lt_iff.1 less).2.2
    cases signY : y.negative with
    | true =>
      have := totalKey_of_negative signY
      omega
    | false =>
      have := totalKey_of_positive signY
      omega
  | equal same zeros =>
    have same : x.numericKey = y.numericKey := of_decide_eq_true (Bool.and_eq_true_iff.1 same).2
    cases signY : y.negative with
    | true =>
      have := totalKey_of_negative (zeros signY)
      have := totalKey_of_negative signY
      omega
    | false =>
      have := totalKey_of_positive signY
      omega
  | below nanX signX outside =>
    obtain ⟨codeX, keyX⟩ := totalKey_of_negative signX
    have := isNaN_iff.1 nanX
    cases signY : y.negative with
    | true =>
      have := isNaN_eq_false_iff.1 (by simpa [signY] using outside)
      have := totalKey_of_negative signY
      omega
    | false =>
      have := totalKey_of_positive signY
      omega
  | above nanY signY outside =>
    obtain ⟨codeY, keyY⟩ := totalKey_of_positive signY
    have := isNaN_iff.1 nanY
    cases signX : x.negative with
    | true =>
      have := totalKey_of_negative signX
      omega
    | false =>
      have := isNaN_eq_false_iff.1 (by simpa [signX] using outside)
      have := totalKey_of_positive signX
      omega
  | payloadsBelow _ _ signX signY payloads =>
    have := totalKey_of_negative signX
    have := totalKey_of_negative signY
    omega
  | payloadsAbove _ _ signX signY payloads =>
    have := totalKey_of_positive signX
    have := totalKey_of_positive signY
    omega

end

/-- **The comparison of data obeys the rules.** -/
theorem totalCompare_isLE_iff {x y : Binary64} : (x.totalCompare y).isLE = true ↔ x.TotalLE y := by
  rw [totalCompare, Std.isLE_compare]
  exact ⟨totalLE_of_totalKey_le, totalKey_le_of_totalLE⟩

/-- The two zeros are equal as numbers but not in the total order. -/
example : zero.neg.TotalLE zero ∧ ¬ zero.TotalLE zero.neg := by
  rw [← totalCompare_isLE_iff, ← totalCompare_isLE_iff]
  decide

end Binary64
end Gradebook
