/-
# The exponential of a binary64 number

`e ^ x` is computed from a truncated power series in fixed point: with `S = 2 ^ 128` and a
whole number `t` standing for `t / S`,

    e ^ t ≈ 1 + t (1 + t / 2 (1 + t / 3 (…)))

each step rounded down. The number of steps grows with `t`, and each step is monotone in what
it is given, so the whole is monotone in `t`. A negative argument takes the reciprocal. The
result is rounded to binary64 once; it carries more than a hundred correct bits before that. Other
exponentials may differ from this one in the last bit.
-/

import Gradebook.Binary64.Arithmetic

namespace Gradebook
namespace Binary64

/-- The scale of the fixed-point numbers of this module. -/
def expScale : Nat := Nat.pow 2 128

/-- **The series from step `k` on**, `1 + t / k (1 + t / (k + 1) (…))` with `steps` steps, in
fixed point. -/
def expSeries (t : Nat) : Nat → Nat → Nat
  | 0, _ => expScale
  | steps + 1, k => expScale + t * expSeries t steps (k + 1) / (k * expScale)

/-- `e ^ (t / S)` in fixed point, for `t / S` up to about a thousand. -/
def expFixed (t : Nat) : Nat := expSeries t (64 + 4 * (t / expScale + 1)) 1

/-- From here on the exponential is infinite, and that of the negated argument zero. -/
def expLimit : Nat := 1024

/-- The exponential. -/
def exp (x : Binary64) : Binary64 :=
  if x.isNaN then x.quiet
  else if expLimit * unitsPerOne ≤ x.units || x.isInfinite then
    (if x.negative then zero else infinity false)
  else
    let t := x.units * expScale / unitsPerOne
    if x.negative then ofQuotient false expScale (expFixed t)
    else ofQuotient false (expFixed t) expScale

end Binary64
end Gradebook
