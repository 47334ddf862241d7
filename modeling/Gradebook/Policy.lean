/-
# Scoring policies

A policy says what part of the nominal score a late submission still earns. It depends on the
lateness in whole milliseconds.

| policy | part earned `t` after the deadline |
| --- | --- |
| exponential | `e ^ (-t / halfLife)`, but no less than the floor |
| linear | falls from one to the floor over the grace period, and is the floor after it |

A submission at the deadline or before it earns the nominal score. Arithmetic on binary64 numbers is
fixed to the last bit, but exponentials are not, and two of them may differ there. So the
exponential is a parameter of the curve (`awardWith`), and `award` takes the one at hand.
-/

import Gradebook.Binary64.Exponential
import Gradebook.Decimal.Style
import Gradebook.Score
import Gradebook.Time.Instant

namespace Gradebook

/-- How lateness lowers a score. -/
inductive Policy where
  | exponential (halfLife : Duration) (floorRatio : Binary64)
  | linear (gracePeriod : Duration) (floorMultiplier : Binary64)
deriving DecidableEq

namespace Policy

/-- The policy of weekly tasks: five days, and never less than three tenths. -/
def weekly : Policy :=
  .exponential (Duration.ofDays 5) (Binary64.ofQuotient false 3 10)

/-- What makes a policy unusable. -/
inductive Fault where
  | halfLife
  | floorRatio (value : Binary64)
  | gracePeriod
  | floorMultiplier (value : Binary64)
deriving DecidableEq

def Fault.message : Fault → String
  | halfLife => "halfLife must be positive"
  | floorRatio value => "floorRatio " ++ value.text .plain ++ " must lie within [0, 1]"
  | gracePeriod => "gracePeriod must be positive"
  | floorMultiplier value =>
    "floorMultiplier " ++ value.text .plain ++ " must be a non-negative number"

/-- **The first fault of a policy:** its time has to be positive, the floor of an exponential
policy has to lie between zero and one, and that of a linear one has to be finite and not
negative. -/
def fault? : Policy → Option Fault
  | exponential halfLife floor =>
    if halfLife.nanos ≤ 0 then some .halfLife
    else if Binary64.zero.le floor && floor.le Binary64.one then none
    else some (.floorRatio floor)
  | linear grace floor =>
    if grace.nanos ≤ 0 then some .gracePeriod
    else if !floor.isFinite || floor.lt Binary64.zero then some (.floorMultiplier floor)
    else none

/-- A duration in seconds, from its whole milliseconds. -/
def secondsOf (d : Duration) : Binary64 := Binary64.ofInt d.milliseconds / Binary64.ofNat 1000

section

variable (exp : Binary64 → Binary64) (policy : Policy)

/-- The part of the nominal score earned so long after the deadline, by a given exponential. -/
def multiplierWith (late : Duration) : Binary64 :=
  match policy with
  | exponential halfLife floor => floor.max (exp (-secondsOf late / secondsOf halfLife))
  | linear grace floor =>
    if grace.nanos ≤ late.nanos then floor
    else
      let elapsed := secondsOf late / secondsOf grace
      (Binary64.one - elapsed) + floor * elapsed

/-- **The award for a submission,** by a given exponential. -/
def awardWith (nominal : Score) (deadline submitted : Instant) : Score :=
  if submitted.le deadline then nominal
  else nominal.scale (multiplierWith exp policy (submitted.since deadline))

end

/-- The part of the nominal score earned so long after the deadline. -/
def multiplier (policy : Policy) (late : Duration) : Binary64 :=
  multiplierWith Binary64.exp policy late

/-- **The award for a submission.** -/
def award (policy : Policy) (nominal : Score) (deadline submitted : Instant) : Score :=
  awardWith Binary64.exp policy nominal deadline submitted

/-- Whether two policies are the same curve; their floors are compared as numbers. -/
def same : Policy → Policy → Bool
  | exponential a x, exponential b y => a = b && x.numericEq y
  | linear a x, linear b y => a = b && x.numericEq y
  | _, _ => false

end Policy
end Gradebook
