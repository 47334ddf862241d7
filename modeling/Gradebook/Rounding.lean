/-
# Rounding a quotient to a whole number

Two rules for `num / den` with `0 < den`. They differ on an exact half only:

| rule | a half goes to |
| --- | --- |
| `nearestEven` | the even neighbour |
| `nearestUp` | the upper neighbour |
-/

namespace Gradebook
namespace Rounding

/-- **Nearest whole number, a half going to the even neighbour.** -/
def nearestEven (num den : Nat) : Nat :=
  let floor := num / den
  let doubled := 2 * (num % den)
  if doubled < den then floor
  else if den < doubled then floor + 1
  else if floor % 2 = 0 then floor else floor + 1

/-- **Nearest whole number, a half going up:** the floor of `num / den + 1 / 2`. -/
def nearestUp (num den : Nat) : Nat :=
  (2 * num + den) / (2 * den)

theorem div_le_nearestEven (num den : Nat) : num / den ≤ nearestEven num den := by
  unfold nearestEven
  simp only
  repeat' split
  all_goals omega

theorem nearestEven_le_succ (num den : Nat) : nearestEven num den ≤ num / den + 1 := by
  unfold nearestEven
  simp only
  repeat' split
  all_goals omega

/-- A whole quotient is its own rounding. -/
theorem nearestEven_mul (n den : Nat) (h : 0 < den) : nearestEven (n * den) den = n := by
  have hmod : n * den % den = 0 := Nat.mul_mod_left n den
  have hdiv : n * den / den = n := Nat.mul_div_cancel n h
  simp [nearestEven, hmod, hdiv, h]

@[simp] theorem nearestEven_one (n : Nat) : nearestEven n 1 = n := by
  simpa using nearestEven_mul n 1 Nat.one_pos

end Rounding
end Gradebook
