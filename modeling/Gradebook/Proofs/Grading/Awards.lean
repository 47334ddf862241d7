/-
# Awards between the floor and the nominal score

The part of a nominal score that a late submission earns is a fraction, and no less than the floor
of the policy if the floor is one (`Policy.isFraction_multiplier`). So the award lies between that
share of the nominal score and all of it, with two exceptions (`Policy.award_between`).

| exception | award |
| --- | --- |
| within a grace period of no whole millisecond | none, for zero is divided by zero |
| a negative time after a deadline in a leap second | may be more than the nominal score |

The lemmas hold for every exponential that can be relied on (`Binary64.Decaying`).
-/

import Gradebook.Policy
import Gradebook.Proofs.Binary64.Exponential
import Gradebook.Proofs.Course.Content
import Gradebook.Proofs.Grading.Shares
import Gradebook.Proofs.Time.Lateness

namespace Gradebook

open Binary64 (Decaying unitsPerOne)

/-! ## Quotients -/

namespace Binary64

variable {x z : Binary64}

/-- What is divided by zero is not finite. -/
theorem isFinite_div_of_isZero (x : Binary64) (none : z.isZero = true) :
    (x / z).isFinite = false := by
  have zero : z.magnitude = 0 := of_decide_eq_true none
  have within : z.isInfinite = false := by
    rw [isInfinite, zero]
    decide
  refine isFinite_propagate fun _ _ => ?_
  simp only [within, none, Bool.false_eq_true, if_false, if_true]
  split_ifs
  · exact isFinite_infinity _
  · exact isFinite_invalid
  · exact isFinite_infinity _

theorem isFinite_sub_right (x : Binary64) (extreme : z.isFinite = false) :
    (x - z).isFinite = false :=
  isFinite_propagate fun _ _ => isFinite_add_right x (by simpa using extreme)

/-- **A number divided by one that is no less** is a fraction. -/
theorem isFraction_div (finite : z.isFinite = true) (some : 0 < z.numericKey)
    (nonneg : 0 ≤ x.numericKey) (le : x.numericKey ≤ z.numericKey) : (x / z).IsFraction := by
  have finiteX : x.isFinite = true :=
    isFinite_of_numericKey (x := zero) (by decide) finite nonneg le
  have unitsX := signedUnits_of_numericKey_nonneg nonneg
  have unitsZ := signedUnits_of_numericKey_nonneg some.le
  have divisor : 0 < z.units := by
    refine units_pos_of_isZero (decide_eq_false fun none => ?_) finite
    have := natAbs_numericKey z
    omega
  have sizes : x.units ≤ z.units := by
    have order := (signedUnits_le_iff finiteX finite).2 le
    omega
  have key : (x / z).numericKey = nearestMagnitude (x.units * unitsPerOne) z.units := by
    rw [numericKey_div finiteX finite (by omega), unitsX, ← Int.natCast_mul, nearestKey_natCast]
  refine (isFraction_of_numericKey_eq divisor key ?_).1
  rw [Nat.mul_comm]
  exact Nat.mul_le_mul_left _ sizes

/-- **The greater of a fraction and what may not be a number** is a fraction no less. -/
theorem isFraction_max (fraction : x.IsFraction) (other : z.isNaN = false → z.IsFraction) :
    (x.max z).IsFraction ∧ x.numericKey ≤ (x.max z).numericKey := by
  have number := isNaN_of_isFinite fraction.isFinite
  cases isNaN : z.isNaN with
  | true =>
    rw [max_of_isNaN number isNaN]
    exact ⟨fraction, le_refl _⟩
  | false =>
    have key := numericKey_max number isNaN
    have := fraction.nonneg
    have := fraction.le_one
    have := (other isNaN).le_one
    exact ⟨⟨by omega, by omega⟩, by omega⟩

end Binary64

namespace Policy

/-! ## Milliseconds as seconds -/

section

variable {d e : Duration} (nonneg : 0 ≤ d.milliseconds)

section

include nonneg

theorem secondsOf_eq_div :
    secondsOf d = Binary64.ofNat d.milliseconds.toNat / Binary64.ofNat 1000 := by
  obtain ⟨n, same⟩ := Int.eq_ofNat_of_zero_le nonneg
  rw [secondsOf, same]
  rfl

theorem isNaN_secondsOf : (secondsOf d).isNaN = false := by
  have finite : (Binary64.ofNat 1000).isFinite = true := isFinite_ofNat (by decide)
  rw [secondsOf_eq_div nonneg, Bool.eq_false_iff, Ne,
    Binary64.isNaN_div_iff (Binary64.isNaN_ofNat _) (Binary64.isNaN_ofNat _)]
  rintro (⟨-, infinite⟩ | ⟨-, none⟩)
  · rw [Binary64.isInfinite_of_isFinite finite] at infinite
    cases infinite
  · exact absurd none (by decide +kernel)

theorem isNaN_neg_secondsOf : (-secondsOf d).isNaN = false := by
  rw [Binary64.isNaN_neg, isNaN_secondsOf nonneg]

theorem negative_secondsOf : (secondsOf d).negative = false := by
  have number := isNaN_secondsOf nonneg
  rw [secondsOf_eq_div nonneg] at number ⊢
  exact Binary64.negative_div (Binary64.isNaN_ofNat _) (Binary64.isNaN_ofNat _) number

theorem numericKey_secondsOf : (secondsOf d).numericKey = (secondsOf d).magnitude := by
  rw [Binary64.numericKey, negative_secondsOf nonneg]
  rfl

/-- **A longer time** is no fewer seconds. -/
theorem magnitude_secondsOf_le (le : d.milliseconds ≤ e.milliseconds) :
    (secondsOf d).magnitude ≤ (secondsOf e).magnitude := by
  have numberD := isNaN_secondsOf nonneg
  have numberE := isNaN_secondsOf (nonneg.trans le)
  rw [secondsOf_eq_div nonneg] at numberD ⊢
  rw [secondsOf_eq_div (nonneg.trans le)] at numberE ⊢
  have counts : d.milliseconds.toNat ≤ e.milliseconds.toNat := Int.toNat_le_toNat le
  exact Binary64.magnitude_div_le (Binary64.isNaN_ofNat _) (Binary64.isNaN_ofNat _)
    (Binary64.isNaN_ofNat _) numberD numberE <|
    Binary64.nearestMagnitude_mono Nat.one_pos Nat.one_pos <|
      Nat.mul_le_mul_right _ (Nat.mul_le_mul_right _ counts)

theorem isFinite_secondsOf (few : d.milliseconds < 2 ^ 63) : (secondsOf d).isFinite = true := by
  have finite : (Binary64.ofNat d.milliseconds.toNat).isFinite = true :=
    isFinite_ofNat (by omega)
  have thousand : (Binary64.ofNat 1000).isFinite = true := isFinite_ofNat (by decide)
  have one := Binary64.unitsPerOne_le_units_ofNat (by decide : 0 < 1000) thousand
  rw [secondsOf_eq_div nonneg]
  exact (Binary64.within_div ⟨_, Binary64.isFinite_iff.1 finite, rfl⟩ finite thousand
    (Binary64.unitsPerOne_pos.trans_le one) (Nat.mul_le_mul_left _ one)).1

end

theorem secondsOf_of_milliseconds_eq_zero (none : d.milliseconds = 0) :
    secondsOf d = .zero := by
  rw [secondsOf, none]
  decide +kernel

/-- A millisecond is more than no time. -/
theorem numericKey_secondsOf_pos (some : 0 < d.milliseconds) : 0 < (secondsOf d).numericKey := by
  have one : 0 < (secondsOf ⟨1000000⟩).magnitude := by decide +kernel
  have least : (⟨1000000⟩ : Duration).milliseconds ≤ d.milliseconds := some
  have most := magnitude_secondsOf_le (by decide) least
  have key := numericKey_secondsOf some.le
  omega

/-- **The part of a time that has elapsed** is a fraction. -/
theorem isFraction_elapsed {grace late : Duration} (nonneg : 0 ≤ late.milliseconds)
    (le : late.milliseconds ≤ grace.milliseconds) (some : 0 < grace.milliseconds)
    (few : grace.milliseconds < 2 ^ 63) : (secondsOf late / secondsOf grace).IsFraction := by
  have sizes := magnitude_secondsOf_le nonneg le
  have keyLate := numericKey_secondsOf nonneg
  have keyGrace := numericKey_secondsOf some.le
  exact Binary64.isFraction_div (isFinite_secondsOf some.le few) (numericKey_secondsOf_pos some)
    (by omega) (by omega)

end

/-! ## What a late submission earns -/

/-- The half-life or the grace period of a policy. -/
def period : Policy → Duration
  | exponential halfLife _ => halfLife
  | linear grace _ => grace

/-- **Whether zero is divided by zero:** within a grace period of no whole millisecond. -/
def DividesByZero (policy : Policy) (late : Duration) : Prop :=
  match policy with
  | exponential _ _ => False
  | linear grace _ => late.nanos < grace.nanos ∧ grace.milliseconds = 0

/-- What the exponential is taken of. -/
def exponent (halfLife late : Duration) : Binary64 := -secondsOf late / secondsOf halfLife

variable {exp : Binary64 → Binary64}

theorem multiplier_exponential (halfLife late : Duration) (floor : Binary64) :
    multiplierWith exp (exponential halfLife floor) late =
      floor.max (exp (exponent halfLife late)) := rfl

section

variable {halfLife late : Duration} (half : 0 ≤ halfLife.milliseconds)
  (nonneg : 0 ≤ late.milliseconds)

include half nonneg

theorem negative_exponent (number : (exponent halfLife late).isNaN = false) :
    (exponent halfLife late).negative = true := by
  rw [exponent] at number ⊢
  rw [Binary64.negative_div (isNaN_neg_secondsOf nonneg) (isNaN_secondsOf half) number,
    Binary64.negative_neg, negative_secondsOf nonneg, negative_secondsOf half]
  rfl

theorem exponent_le_zero (number : (exponent halfLife late).isNaN = false) :
    (exponent halfLife late).le .zero = true :=
  Binary64.le_zero_of_negative number (negative_exponent half nonneg number)

/-- **Exponential decay** is a fraction and no less than the floor. -/
theorem isFraction_decay (decaying : Decaying exp) {floor : Binary64}
    (fraction : floor.IsFraction) :
    (multiplierWith exp (exponential halfLife floor) late).IsFraction ∧
      floor.numericKey ≤ (multiplierWith exp (exponential halfLife floor) late).numericKey := by
  rw [multiplier_exponential]
  refine Binary64.isFraction_max fraction fun number =>
    decaying.isFraction (exponent_le_zero half nonneg ?_)
  by_contra isNaN
  rw [decaying.isNaN (by simpa using isNaN)] at number
  cases number

end

/-- **The floor of exponential decay** is a fraction. -/
theorem isFraction_floorRatio {halfLife : Duration} {floor : Binary64}
    (usable : (exponential halfLife floor).fault? = none) : floor.IsFraction := by
  simp only [fault?] at usable
  split_ifs at usable with short within
  obtain ⟨lower, upper⟩ := Bool.and_eq_true_iff.1 within
  exact ⟨(Binary64.le_iff.1 lower).2.2, (Binary64.le_iff.1 upper).2.2⟩

variable {policy : Policy}

/-- Where zero is divided by zero nothing is earned. -/
theorem scale_multiplier_of_dividesByZero {late : Duration} (divides : policy.DividesByZero late)
    (nominal : Score) : nominal.scale (multiplierWith exp policy late) = 0 := by
  cases policy with
  | exponential halfLife floor => exact divides.elim
  | linear grace floor =>
    obtain ⟨within, none⟩ := divides
    have divisor : (secondsOf grace).isZero = true := by
      rw [secondsOf_of_milliseconds_eq_zero none]
      rfl
    have elapsed := Binary64.isFinite_div_of_isZero (secondsOf late) divisor
    have rest := Binary64.isFinite_sub_right .one elapsed
    have extreme : (multiplierWith exp (linear grace floor) late).isFinite = false := by
      simp only [multiplierWith, if_neg (Int.not_le.2 within)]
      exact Binary64.isFinite_add_left rest _
    exact Score.round_of_not_finite (Binary64.isFinite_mul_right _ extreme)

theorem award_of_onTime {deadline submitted : Instant} (onTime : submitted.le deadline = true)
    (nominal : Score) : awardWith exp policy nominal deadline submitted = nominal :=
  if_pos onTime

theorem award_of_late {deadline submitted : Instant} (late : submitted.le deadline = false)
    (nominal : Score) : awardWith exp policy nominal deadline submitted =
      nominal.scale (multiplierWith exp policy (submitted.since deadline)) :=
  if_neg (by simp [late])

section

variable (usable : policy.fault? = none)

include usable

theorem period_pos : 0 < policy.period.nanos := by
  unfold fault? at usable
  split at usable
  all_goals
    split_ifs at usable with short
    exact Int.not_le.1 short

/-- A floor of at most one is a fraction. -/
theorem isFraction_floor (most : policy.floor.le .one = true) : policy.floor.IsFraction := by
  cases policy with
  | exponential halfLife floor => exact isFraction_floorRatio usable
  | linear grace floor =>
    have most : floor.le .one = true := most
    obtain ⟨number, -, upper⟩ := Binary64.le_iff.1 most
    refine ⟨?_, upper⟩
    simp only [fault?] at usable
    split_ifs at usable with short outside
    have above := (Bool.or_eq_false_iff.1 (Bool.eq_false_iff.2 outside)).2
    rw [Binary64.lt, number] at above
    exact Int.not_lt.1 (of_decide_eq_false above)

/-- **The part that is earned** is a fraction and no less than the floor. -/
theorem isFraction_multiplier (decaying : Decaying exp) (most : policy.floor.le .one = true)
    (few : policy.period.milliseconds < 2 ^ 63) {late : Duration} (nonneg : 0 ≤ late.milliseconds)
    (divides : ¬ policy.DividesByZero late) :
    (multiplierWith exp policy late).IsFraction ∧
      policy.floor.numericKey ≤ (multiplierWith exp policy late).numericKey := by
  have fraction := isFraction_floor usable most
  have positive := period_pos usable
  cases policy with
  | exponential halfLife floor =>
    exact isFraction_decay (Duration.milliseconds_nonneg positive.le) nonneg decaying fraction
  | linear grace floor =>
    by_cases expired : grace.nanos ≤ late.nanos
    · simp only [multiplierWith, if_pos expired]
      exact ⟨fraction, le_refl _⟩
    · have whole : 0 ≤ grace.milliseconds := Duration.milliseconds_nonneg positive.le
      have some : 0 < grace.milliseconds := by
        by_contra none
        exact divides ⟨Int.not_le.1 expired, by omega⟩
      have within : late.milliseconds ≤ grace.milliseconds :=
        Duration.milliseconds_mono (Int.not_le.1 expired).le
      simp only [multiplierWith, if_neg expired]
      exact Binary64.interpolation_between fraction (isFraction_elapsed nonneg within some few)

/-! ## Awards -/

/-- **Awards lie between the floor and the nominal score.** For every usable policy with a floor of
at most one and a period of less than `2 ^ 63` milliseconds, a submission that is on time, or whose
lateness is not negative and not divided by zero, is awarded no less than the share of the nominal
score that the floor is and no more than the nominal score. Where the lateness is divided by zero
the award is zero, and a lateness is positive unless the deadline lies within a leap second. -/
theorem award_between (most : policy.floor.le .one = true)
    (few : policy.period.milliseconds < 2 ^ 63) (nominal : Score) (deadline submitted : Instant) :
    (submitted.le deadline = true ∨
        0 ≤ (submitted.since deadline).milliseconds ∧
          ¬ policy.DividesByZero (submitted.since deadline) →
      nominal.scale policy.floor ≤ policy.award nominal deadline submitted ∧
        policy.award nominal deadline submitted ≤ nominal) ∧
    (submitted.le deadline = false → policy.DividesByZero (submitted.since deadline) →
      policy.award nominal deadline submitted = 0) ∧
    (submitted.le deadline = false → deadline.inLeapSecond = false →
      0 < (submitted.since deadline).nanos) := by
  have fraction := isFraction_floor usable most
  simp only [award]
  refine ⟨fun ordinary => ?_, fun late divides => ?_, fun late plain => ?_⟩
  · cases onTime : submitted.le deadline with
    | true =>
      rw [award_of_onTime onTime]
      exact ⟨Score.scale_le fraction nominal, UInt32.le_refl _⟩
    | false =>
      obtain ⟨nonneg, divides⟩ := ordinary.resolve_left (by simp [onTime])
      obtain ⟨part, floor⟩ :=
        isFraction_multiplier usable Binary64.decaying_exp most few nonneg divides
      rw [award_of_late onTime]
      exact ⟨Score.scale_le_scale fraction part floor nominal, Score.scale_le part nominal⟩
  · rw [award_of_late late]
    exact scale_multiplier_of_dividesByZero divides nominal
  · exact Instant.nanos_since_pos plain late

end

/-- The evening of 15 September 2024. -/
def sampleDeadline : Instant := (default : Instant).shift 1726430400

/-- An hour after that. -/
def hourLate : Instant := sampleDeadline.shift 3600

theorem award_between_weekly :
    weekly.fault? = none ∧ weekly.floor.le .one = true ∧ weekly.period.milliseconds < 2 ^ 63 ∧
      Score.scale 100 weekly.floor ≤ weekly.award 100 sampleDeadline hourLate ∧
      weekly.award 100 sampleDeadline hourLate ≤ 100 := by
  have usable : weekly.fault? = none := by decide +kernel
  have most : weekly.floor.le .one = true := by decide +kernel
  have few : weekly.period.milliseconds < 2 ^ 63 := by decide
  have ordinary : 0 ≤ (hourLate.since sampleDeadline).milliseconds ∧
      ¬ weekly.DividesByZero (hourLate.since sampleDeadline) := ⟨by decide, id⟩
  exact ⟨usable, most, few,
    (award_between usable most few 100 sampleDeadline hourLate).1 (.inr ordinary)⟩

/-- Half a millisecond of grace, and never less than a half. -/
def brief : Policy := .linear ⟨500000⟩ (.ofQuotient false 1 2)

/-- A second, and never less than a half. -/
def hasty : Policy := .exponential ⟨1000000000⟩ (.ofQuotient false 1 2)

/-- **Awards outside of the bounds:** nothing a tenth of a millisecond after a deadline, and more
than everything at midnight after a deadline within the leap second of 2016. -/
theorem award_outside :
    (brief.fault? = none ∧ brief.floor.le .one = true ∧
      brief.award 100 sampleDeadline { day := 19981, second := 72000, nano := 100000 } <
        Score.scale 100 brief.floor) ∧
    hasty.fault? = none ∧ hasty.floor.le .one = true ∧
      100 < hasty.award 100 { day := 17166, second := 86399, nano := 1900000000 }
        { day := 17167, second := 0, nano := 0 } := by
  decide +kernel

end Policy
end Gradebook
