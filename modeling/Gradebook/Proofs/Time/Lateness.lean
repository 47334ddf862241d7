/-
# Lateness

A submission is late by the time from the deadline to it. Outside of leap seconds that is a
difference of nanoseconds, so it grows with the submission (`Instant.milliseconds_since_le`). A
deadline that does not lie within a leap second is followed by positive times only, whether or not
the submission lies within one (`Instant.nanos_since_pos`). After a deadline within a leap second a
time can be negative: the order of instants takes the leap second for a part of its day, and the
subtraction does not count it from one midnight to the next.
-/

import Gradebook.Time.Instant
import Mathlib.Tactic.Common

namespace Gradebook

theorem Duration.milliseconds_nonneg {d : Duration} (nonneg : 0 ≤ d.nanos) :
    0 ≤ d.milliseconds :=
  Int.tdiv_nonneg nonneg (by decide)

/-- **A longer time** has no fewer whole milliseconds. -/
theorem Duration.milliseconds_mono {d e : Duration} (le : d.nanos ≤ e.nanos) :
    d.milliseconds ≤ e.milliseconds :=
  Int.tdiv_le_tdiv (by decide) le

namespace Instant

variable {a b deadline submitted : Instant}

/-- The order of instants, part by part. -/
theorem le_iff : a.le b = true ↔
    a.day < b.day ∨
      a.day = b.day ∧ (a.second < b.second ∨ a.second = b.second ∧ a.nano ≤ b.nano) := by
  simp only [le, compare, Ordering.isLE_then_iff_or, Std.compare_eq_lt,
    Std.isLE_compare, Std.LawfulEqOrd.compare_eq_iff_eq]

theorem nanos_since (later earlier : Instant) : (later.since earlier).nanos =
    ((later.day - earlier.day) * 86400 + ((later.second : Int) - earlier.second) +
      leapCorrection later earlier) * 1000000000 + ((later.nano : Int) - earlier.nano) := rfl

/-- Nanoseconds since the first day, leap seconds aside. -/
def ordinal (a : Instant) : Int := (a.day * 86400 + a.second) * 1000000000 + a.nano

theorem nano_lt_of_inLeapSecond (plain : a.inLeapSecond = false) : a.nano < 1000000000 := by
  have short : ¬ 1000000000 ≤ a.nano := of_decide_eq_false plain
  omega

/-- **Outside of leap seconds the order is that of nanoseconds.** -/
theorem le_iff_ordinal (plainA : a.inLeapSecond = false) (plainB : b.inLeapSecond = false) :
    a.le b = true ↔ a.ordinal ≤ b.ordinal := by
  have := nano_lt_of_inLeapSecond plainA
  have := nano_lt_of_inLeapSecond plainB
  have := a.second_lt
  have := b.second_lt
  rw [le_iff]
  unfold ordinal
  omega

/-- **The time between two instants** is the difference in nanoseconds, outside of leap seconds. -/
theorem nanos_since_of_plain (plainA : a.inLeapSecond = false) (plainB : b.inLeapSecond = false) :
    (b.since a).nanos = b.ordinal - a.ordinal := by
  have none : leapCorrection b a = 0 := by simp [leapCorrection, plainA, plainB]
  rw [nanos_since, none]
  unfold ordinal
  omega

/-- What is after a deadline is a positive time after it. -/
theorem nanos_since_pos (plain : deadline.inLeapSecond = false)
    (late : submitted.le deadline = false) : 0 < (submitted.since deadline).nanos := by
  have after := mt le_iff.2 (Bool.eq_false_iff.1 late)
  have short := nano_lt_of_inLeapSecond plain
  have := submitted.second_lt
  have := deadline.second_lt
  -- A leap second at the end is taken off only with a nanosecond that makes up for it.
  have correction : 0 ≤ leapCorrection submitted deadline ∨
      leapCorrection submitted deadline = -1 ∧ 1000000000 ≤ submitted.nano := by
    unfold leapCorrection
    rw [plain]
    split_ifs with _ _ _ leap
    all_goals first | exact .inl (by decide) | exact .inr ⟨rfl, of_decide_eq_true leap⟩
  have equal : deadline.second = submitted.second → leapCorrection submitted deadline = 0 := by
    intro same
    simp [leapCorrection, same]
  rw [nanos_since]
  omega

/-- **A later submission is no less late.** -/
theorem milliseconds_since_le (plainDeadline : deadline.inLeapSecond = false)
    (plainA : a.inLeapSecond = false) (plainB : b.inLeapSecond = false)
    (le : a.le b = true) :
    (a.since deadline).milliseconds ≤ (b.since deadline).milliseconds := by
  have order := (le_iff_ordinal plainA plainB).1 le
  refine Duration.milliseconds_mono ?_
  rw [nanos_since_of_plain plainDeadline plainA, nanos_since_of_plain plainDeadline plainB]
  omega

end Instant
end Gradebook
