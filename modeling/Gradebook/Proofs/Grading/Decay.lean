/-
# Exponential decay

Under an exponential policy a later submission is awarded no more, outside of leap seconds and
whatever exponential is taken, if it can be relied on (`Policy.award_exponential_antitone`). The
quotient of lateness and half-life need not be a number, since a time of less than a millisecond is
zero seconds. Then the floor alone counts, and it does for all that is later too: a half-life of
zero seconds takes any lateness of a millisecond or more to minus infinity
(`Policy.exponent_eq_infinity`), and so to zero.
-/

import Gradebook.Proofs.Grading.Awards
import Gradebook.Proofs.Grading.Evidence

namespace Gradebook

open Binary64 (Decaying)

namespace Policy

variable {exp : Binary64 → Binary64}

section

variable {halfLife late later : Duration} {floor : Binary64}
  (half : 0 ≤ halfLife.milliseconds) (nonneg : 0 ≤ late.milliseconds)

include half nonneg

/-- **Lateness and half-life have no quotient** if both are infinite or both are zero. -/
theorem isNaN_exponent_iff : (exponent halfLife late).isNaN = true ↔
    (secondsOf late).isInfinite = true ∧ (secondsOf halfLife).isInfinite = true ∨
      (secondsOf late).isZero = true ∧ (secondsOf halfLife).isZero = true := by
  rw [exponent, Binary64.isNaN_div_iff (isNaN_neg_secondsOf nonneg) (isNaN_secondsOf half),
    Binary64.isInfinite_neg, Binary64.isZero_neg]

variable (le : late.milliseconds ≤ later.milliseconds)

include le

section

variable (number : (exponent halfLife later).isNaN = false)

include number

/-- **What has no quotient** is taken to minus infinity as soon as there is one. -/
theorem exponent_eq_infinity (isNaN : (exponent halfLife late).isNaN = true) :
    exponent halfLife later = .infinity true := by
  have nonneg' := nonneg.trans le
  have defined : ¬ (exponent halfLife later).isNaN = true := by simp [number]
  rw [isNaN_exponent_iff half nonneg'] at defined
  have order := magnitude_secondsOf_le nonneg le
  have beyond : (exponent halfLife later).isInfinite = true := by
    rcases (isNaN_exponent_iff half nonneg).1 isNaN with ⟨infinite, infHalf⟩ | ⟨-, noneHalf⟩
    · -- The longer time would be infinite too.
      have least : (secondsOf late).magnitude = Binary64.infinityMagnitude :=
        of_decide_eq_true infinite
      have most := Binary64.isNaN_eq_false_iff.1 (isNaN_secondsOf nonneg')
      exact absurd (.inl ⟨decide_eq_true (by omega), infHalf⟩) defined
    · refine Binary64.isInfinite_of_number ?_ number
      rw [exponent]
      exact Binary64.isFinite_div_of_isZero _ noneHalf
  exact Binary64.eq_infinity beyond (negative_exponent half nonneg' number)

/-- **The exponent falls** with the lateness. -/
theorem exponent_antitone (number' : (exponent halfLife late).isNaN = false) :
    (exponent halfLife later).le (exponent halfLife late) = true := by
  have nonneg' := nonneg.trans le
  have order := magnitude_secondsOf_le nonneg le
  have sizes : (exponent halfLife late).magnitude ≤ (exponent halfLife later).magnitude := by
    rw [exponent] at number number' ⊢
    refine Binary64.magnitude_div_le (isNaN_neg_secondsOf nonneg) (isNaN_neg_secondsOf nonneg')
      (isNaN_secondsOf half) number' number ?_
    rwa [Binary64.magnitude_neg, Binary64.magnitude_neg]
  refine Binary64.le_iff.2 ⟨number, number', ?_⟩
  rw [Binary64.numericKey_of_negative (negative_exponent half nonneg' number),
    Binary64.numericKey_of_negative (negative_exponent half nonneg number')]
  exact Int.neg_le_neg (Int.ofNat_le.2 sizes)

end

/-- **The part that is earned** does not grow with the lateness. -/
theorem numericKey_decay_le (decaying : Decaying exp) (fraction : floor.IsFraction) :
    (multiplierWith exp (exponential halfLife floor) later).numericKey ≤
      (multiplierWith exp (exponential halfLife floor) late).numericKey := by
  have floorNumber := Binary64.isNaN_of_isFinite fraction.isFinite
  have below := (isFraction_decay half nonneg decaying fraction).2
  rw [multiplier_exponential] at below ⊢
  rw [multiplier_exponential]
  cases isNaN : (exponent halfLife later).isNaN with
  | true => rwa [Binary64.max_of_isNaN floorNumber (decaying.isNaN isNaN)]
  | false =>
    have decayed := decaying.isFraction (exponent_le_zero half (nonneg.trans le) isNaN)
    rw [Binary64.numericKey_max floorNumber (Binary64.isNaN_of_isFinite decayed.isFinite)]
    refine sup_le below ?_
    cases isNaN' : (exponent halfLife late).isNaN with
    | true =>
      rw [exponent_eq_infinity half nonneg le isNaN isNaN',
        Binary64.numericKey_of_isZero decaying.isZero]
      exact fraction.nonneg.trans below
    | false =>
      have least := exponent_le_zero half nonneg isNaN'
      have decayed' := decaying.isFraction least
      rw [Binary64.numericKey_max floorNumber (Binary64.isNaN_of_isFinite decayed'.isFinite)]
      have order := decaying.mono (exponent_antitone half nonneg le isNaN isNaN') least
      exact (Binary64.le_iff.1 order).2.2.trans le_sup_right

end

/-- **A later submission is awarded no more** under an exponential policy that is usable, if neither
of the two submissions lies within a leap second, nor does the deadline. This holds for every
exponential that can be relied on. -/
theorem award_exponential_antitone (decaying : Decaying exp) {halfLife : Duration}
    {floor : Binary64} (usable : (exponential halfLife floor).fault? = none) (nominal : Score)
    {deadline a b : Instant} (plainDeadline : deadline.inLeapSecond = false)
    (plainA : a.inLeapSecond = false) (plainB : b.inLeapSecond = false) (le : a.le b = true) :
    awardWith exp (exponential halfLife floor) nominal deadline b ≤
      awardWith exp (exponential halfLife floor) nominal deadline a := by
  have half : 0 ≤ halfLife.milliseconds := Duration.milliseconds_nonneg (period_pos usable).le
  have fraction : floor.IsFraction := isFraction_floorRatio usable
  have order := Instant.milliseconds_since_le plainDeadline plainA plainB le
  cases onTimeB : b.le deadline with
  | true =>
    have onTimeA : a.le deadline = true := Std.TransCmp.isLE_trans le onTimeB
    rw [award_of_onTime onTimeA, award_of_onTime onTimeB]
    exact UInt32.le_refl _
  | false =>
    have nonnegB : 0 ≤ (b.since deadline).milliseconds :=
      Duration.milliseconds_nonneg (Instant.nanos_since_pos plainDeadline onTimeB).le
    have partB := (isFraction_decay half nonnegB decaying fraction).1
    rw [award_of_late onTimeB]
    cases onTimeA : a.le deadline with
    | true =>
      rw [award_of_onTime onTimeA]
      exact Score.scale_le partB nominal
    | false =>
      have nonnegA : 0 ≤ (a.since deadline).milliseconds :=
        Duration.milliseconds_nonneg (Instant.nanos_since_pos plainDeadline onTimeA).le
      have partA := (isFraction_decay half nonnegA decaying fraction).1
      rw [award_of_late onTimeA]
      exact Score.scale_le_scale partB partA
        (numericKey_decay_le half nonnegA order decaying fraction) nominal

/-- Two days after the deadline. -/
def twoDaysLate : Instant := sampleDeadline.shift 172800

theorem award_exponential_antitone_weekly :
    Decaying Binary64.exp ∧ weekly.fault? = none ∧ sampleDeadline.inLeapSecond = false ∧
      hourLate.inLeapSecond = false ∧ twoDaysLate.inLeapSecond = false ∧
      hourLate.le twoDaysLate = true ∧
      weekly.award 100 sampleDeadline twoDaysLate ≤ weekly.award 100 sampleDeadline hourLate := by
  have usable : weekly.fault? = none := by decide +kernel
  have order : hourLate.le twoDaysLate = true := by decide
  exact ⟨Binary64.decaying_exp, usable, rfl, rfl, rfl, order,
    award_exponential_antitone Binary64.decaying_exp usable 100 rfl rfl rfl order⟩

/-- An hour costs a point and two days a third of them. -/
example : weekly.award 100 sampleDeadline hourLate = 99 ∧
    weekly.award 100 sampleDeadline twoDaysLate = 67 := by decide +kernel

end Policy
end Gradebook
