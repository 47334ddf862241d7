/-
# Instants

An instant is a day, a second of the day and a nanosecond, all of them in universal time. A
leap second is the second before it with a nanosecond of `10 ^ 9` or more. Instants are ordered
by day, second and nanosecond.

`Instant.since` is the time from one instant to another. A leap second counts when it lies
between the two seconds of the day, whatever the days are, so it can make the result one second
shorter or longer when the two instants lie on different days.
-/

import Gradebook.Time.Calendar
import Gradebook.Time.Duration

namespace Gradebook

/-- An instant in universal time. -/
structure Instant where
  day : Int
  second : Nat
  nano : Nat
  second_lt : second < 86400 := by decide
  nano_lt : nano < 2000000000 := by decide
deriving DecidableEq

namespace Instant

instance : Inhabited Instant := ⟨{ day := 0, second := 0, nano := 0 }⟩

/-- The order of instants. -/
def compare (a b : Instant) : Ordering :=
  (Ord.compare a.day b.day).then
    ((Ord.compare a.second b.second).then (Ord.compare a.nano b.nano))

def le (a b : Instant) : Bool := (compare a b).isLE
def lt (a b : Instant) : Bool := (compare a b).isLT

/-- Whether an instant lies within a leap second. -/
def inLeapSecond (a : Instant) : Bool := 1000000000 ≤ a.nano

/-- The second that a leap second adds between the two times of day. -/
def leapCorrection (later earlier : Instant) : Int :=
  if earlier.second < later.second then (if earlier.inLeapSecond then 1 else 0)
  else if later.second < earlier.second then (if later.inLeapSecond then -1 else 0)
  else 0

/-- **The time from `earlier` to `later`.** -/
def since (later earlier : Instant) : Duration :=
  let seconds := (later.day - earlier.day) * 86400 + ((later.second : Int) - earlier.second)
    + leapCorrection later earlier
  ⟨seconds * 1000000000 + ((later.nano : Int) - earlier.nano)⟩

/-- The instant so many seconds after the start of a day. -/
def ofSeconds (day : Int) (seconds : Int) (nano : Nat) (nano_lt : nano < 2000000000) : Instant where
  day := day + seconds / 86400
  second := (seconds % 86400).toNat
  nano := nano
  second_lt := by omega
  nano_lt := nano_lt

/-- A number of seconds later; earlier if it is negative. -/
def shift (a : Instant) (seconds : Int) : Instant :=
  ofSeconds a.day (a.second + seconds) a.nano a.nano_lt

end Instant

/-- **An instant with the offset from universal time, in seconds, of the clock it is read
from.** -/
structure LocalInstant where
  instant : Instant
  offset : Int
deriving DecidableEq, Inhabited

/-- Whether two clocks show the same instant, each at its own offset. -/
def LocalInstant.same (a b : LocalInstant) : Bool := a.instant = b.instant

end Gradebook
