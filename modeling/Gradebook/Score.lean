/-
# Scores

A score is a whole number of points in 32 bits. Wherever a fraction of a score arises it is
rounded by `Score.round`: to the nearest whole number, a half going up, with zero for what is
not a positive finite number and the greatest score for what is too large.
-/

import Gradebook.Binary64.Arithmetic

namespace Gradebook

/-- The sum of numbers. -/
def total (numbers : List Nat) : Nat := numbers.foldr (· + ·) 0

@[simp] theorem total_nil : total [] = 0 := rfl

@[simp] theorem total_cons (n : Nat) (numbers : List Nat) :
    total (n :: numbers) = n + total numbers := rfl

/-- A number of points. -/
abbrev Score := UInt32

namespace Score

/-- The greatest score. -/
def greatest : Nat := 4294967295

/-- **The score nearest to a number.** -/
def round (x : Binary64) : Score :=
  if !x.isFinite || x.negative then 0 else UInt32.ofNat (Nat.min x.nearestWhole greatest)

/-- **A share of a nominal score.** -/
def scale (nominal : Score) (ratio : Binary64) : Score :=
  round (Binary64.ofNat nominal.toNat * ratio)

end Score
end Gradebook
