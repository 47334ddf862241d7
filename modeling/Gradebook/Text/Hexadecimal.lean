/-
# Hexadecimal digits
-/

namespace Gradebook
namespace Text

/-- The value of a hexadecimal digit in either case. -/
def hexDigit? (c : Char) : Option Nat :=
  if '0' ≤ c && c ≤ '9' then some (c.toNat - '0'.toNat)
  else if 'a' ≤ c && c ≤ 'f' then some (c.toNat - 'a'.toNat + 10)
  else if 'A' ≤ c && c ≤ 'F' then some (c.toNat - 'A'.toNat + 10)
  else none

/-- The value of a row of hexadecimal digits; none if one of them is no digit. -/
def hexValue? (digits : List Char) : Option Nat :=
  digits.foldlM (fun value c => (hexDigit? c).map (value * 16 + ·)) 0

/-- `count` hexadecimal digits at the head of a text, and what follows them. -/
def takeHex? (count : Nat) (s : List Char) : Option (Nat × List Char) :=
  let digits := s.take count
  if digits.length < count then none
  else (hexValue? digits).map fun value => (value, s.drop count)

theorem length_le_of_takeHex? {count value : Nat} {s rest : List Char}
    (taken : takeHex? count s = some (value, rest)) : rest.length ≤ s.length := by
  unfold takeHex? at taken
  dsimp only at taken
  split at taken
  · cases taken
  · obtain ⟨_, -, pair⟩ := Option.map_eq_some_iff.1 taken
    cases pair
    exact Nat.le_trans (Nat.le_of_eq List.length_drop) (Nat.sub_le ..)

end Text
end Gradebook
