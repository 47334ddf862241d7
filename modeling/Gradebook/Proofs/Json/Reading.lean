/-
# Reading gets through a document

What a reader leaves of a text is an end of it (`Json.suffix_of_readValue`), and a bracket, a brace
or a comma comes before every value within an array or an object, so calls are nested, and follow
one another, no more than twice for every character. From there on more fuel changes nothing
(`Json.readValue_eq_of_le`).
-/

import Gradebook.Json.Reading
import Mathlib.Data.List.TakeDrop
import Mathlib.Order.Basic
import Mathlib.Order.Nat

namespace Gradebook
namespace Json

variable {s rest : List Char} {fuel : Nat}

/-! ## Scalars -/

theorem skipSpaces_suffix (s : List Char) : skipSpaces s <:+ s := List.dropWhile_suffix _

section

variable {c : Char} {after : List Char} (found : skipSpaces s = c :: after)

include found

theorem suffix_of_skipSpaces : after <:+ s :=
  (List.suffix_cons c after).trans (found ▸ skipSpaces_suffix s)

theorem length_lt_of_skipSpaces : after.length < s.length :=
  Nat.lt_of_lt_of_le (Nat.lt_succ_self _) (found ▸ skipSpaces_suffix s).length_le

end

theorem suffix_of_pieces? {pieces : List Piece} (taken : pieces? s = some (pieces, rest)) :
    rest <:+ s := by
  fun_induction pieces? s generalizing pieces with
  | case1 | case5 => cases taken
  | case2 after =>
    cases taken
    exact List.suffix_cons ..
  | case3 a b c d after ih =>
    obtain ⟨_, -, taken⟩ := Option.bind_eq_some_iff.1 taken
    obtain ⟨_, others, pair⟩ := Option.bind_eq_some_iff.1 taken
    cases pair
    exact (ih others).trans (List.suffix_append ['\\', 'u', a, b, c, d] after)
  | case4 letter after _ ih =>
    obtain ⟨_, -, taken⟩ := Option.bind_eq_some_iff.1 taken
    obtain ⟨_, others, pair⟩ := Option.bind_eq_some_iff.1 taken
    cases pair
    exact (ih others).trans (List.suffix_append ['\\', letter] after)
  | case6 c after _ _ _ _ ih =>
    obtain ⟨_, others, pair⟩ := Option.bind_eq_some_iff.1 taken
    cases pair
    exact (ih others).trans (List.suffix_cons ..)

theorem suffix_of_stringBody? {text : Option String}
    (taken : stringBody? s = some (text, rest)) : rest <:+ s := by
  obtain ⟨_, pieces, pair⟩ := Option.map_eq_some_iff.1 taken
  cases pair
  exact suffix_of_pieces? pieces

theorem spanDigits_suffix (s : List Char) : (Decimal.spanDigits s).2 <:+ s := by
  rw [Decimal.spanDigits, List.span_eq_takeWhile_dropWhile]
  exact List.dropWhile_suffix _

theorem sign_suffix (s : List Char) : (Decimal.sign s).2 <:+ s := by
  unfold Decimal.sign
  split
  · exact List.suffix_cons ..
  · exact List.suffix_cons ..
  · exact List.suffix_refl _

theorem readFraction_suffix (s : List Char) : (readFraction s).2 <:+ s := by
  unfold readFraction
  split
  · exact (spanDigits_suffix _).trans (List.suffix_cons ..)
  · exact List.suffix_refl _

theorem readExponent_suffix (s : List Char) : (readExponent s).2 <:+ s := by
  unfold readExponent
  split
  · exact List.suffix_refl _
  · next c after =>
    split
    · exact (spanDigits_suffix _).trans <| (sign_suffix after).trans (List.suffix_cons ..)
    · exact List.suffix_refl _

theorem suffix_of_number? {negative : Bool} {value : Json}
    (taken : number? negative s = some (value, rest)) : rest <:+ s := by
  unfold number? at taken
  dsimp only at taken
  split at taken
  · cases taken
  split at taken
  · cases taken
  cases taken
  exact (readExponent_suffix _).trans <| (readFraction_suffix _).trans (spanDigits_suffix s)

theorem suffix_of_word? {word : String} {c : Char} {document value : Json}
    (taken : (word? word s).map (document, ·) = some (value, rest)) : rest <:+ c :: s := by
  obtain ⟨after, word, pair⟩ := Option.map_eq_some_iff.1 taken
  cases pair
  unfold word? at word
  split at word
  · cases word
    exact (List.drop_suffix ..).trans (List.suffix_cons ..)
  · cases word

theorem suffix_of_scalar? {value : Json} (taken : scalar? s = some (value, rest)) :
    rest <:+ s := by
  unfold scalar? at taken
  split at taken
  · obtain ⟨_, body, pair⟩ := Option.map_eq_some_iff.1 taken
    cases pair
    exact (suffix_of_stringBody? body).trans (List.suffix_cons ..)
  · exact (suffix_of_number? taken).trans (List.suffix_cons ..)
  · exact suffix_of_word? taken
  · exact suffix_of_word? taken
  · exact suffix_of_word? taken
  · exact suffix_of_number? taken

theorem suffix_of_scalar (taken : (scalar s).2 = some rest) : rest <:+ s := by
  unfold scalar at taken
  split at taken
  · next found =>
    cases taken
    exact suffix_of_scalar? found
  · cases taken

/-! ## Arrays and objects -/

/-- **What is left is an end of the text.** -/
structure LeavesEnds (fuel : Nat) : Prop where
  value {s rest : List Char} : (readValue fuel s).2 = some rest → rest <:+ s
  items {s rest : List Char} : (readItems fuel s).2 = some rest → rest <:+ s
  members {s rest : List Char} : (readMembers fuel s).2 = some rest → rest <:+ s

namespace LeavesEnds

variable (leaves : LeavesEnds fuel)

include leaves

theorem value_succ (left : (readValue (fuel + 1) s).2 = some rest) : rest <:+ s := by
  rw [readValue] at left
  split at left
  · next opened =>
    split at left
    · next closed =>
      cases left
      exact (suffix_of_skipSpaces closed).trans (suffix_of_skipSpaces opened)
    · exact (leaves.items left).trans <|
        (skipSpaces_suffix _).trans (suffix_of_skipSpaces opened)
  · next opened =>
    split at left
    · next closed =>
      cases left
      exact (suffix_of_skipSpaces closed).trans (suffix_of_skipSpaces opened)
    · exact (leaves.members left).trans <|
        (skipSpaces_suffix _).trans (suffix_of_skipSpaces opened)
  · exact (suffix_of_scalar left).trans (skipSpaces_suffix s)

theorem suffix_of_value {c : Char} {after : List Char}
    (found : (readValue fuel s).2.map skipSpaces = some (c :: after)) : after <:+ s := by
  obtain ⟨between, read, found⟩ := Option.map_eq_some_iff.1 found
  exact (suffix_of_skipSpaces found).trans (leaves.value read)

theorem length_lt_of_value {c : Char} {after : List Char}
    (found : (readValue fuel s).2.map skipSpaces = some (c :: after)) :
    after.length < s.length := by
  obtain ⟨between, read, found⟩ := Option.map_eq_some_iff.1 found
  exact Nat.lt_of_lt_of_le (length_lt_of_skipSpaces found) (leaves.value read).length_le

theorem items_succ (left : (readItems (fuel + 1) s).2 = some rest) : rest <:+ s := by
  rw [readItems] at left
  dsimp only at left
  split at left
  · next closed =>
    cases left
    exact leaves.suffix_of_value closed
  · next comma =>
    split at left
    · cases left
    · exact (leaves.items left).trans <| (skipSpaces_suffix _).trans (leaves.suffix_of_value comma)
  · cases left

theorem members_succ (left : (readMembers (fuel + 1) s).2 = some rest) : rest <:+ s := by
  rw [readMembers] at left
  split at left
  · next opened =>
    split at left
    · cases left
    · next body =>
      split at left
      · next colon =>
        have value := (suffix_of_skipSpaces colon).trans <|
          (suffix_of_stringBody? body).trans (suffix_of_skipSpaces opened)
        dsimp only at left
        split at left
        · next closed =>
          cases left
          exact (leaves.suffix_of_value closed).trans value
        · next comma =>
          exact (leaves.members left).trans <| (leaves.suffix_of_value comma).trans value
        · cases left
      · cases left
  · cases left

end LeavesEnds

theorem leavesEnds (fuel : Nat) : LeavesEnds fuel := by
  induction fuel with
  | zero => exact ⟨nofun, nofun, nofun⟩
  | succ fuel ih => exact ⟨ih.value_succ, ih.items_succ, ih.members_succ⟩

/-- **More fuel changes nothing** where the fuel is enough for the text. -/
structure Settled (fuel : Nat) : Prop where
  value {s : List Char} (enough : 2 * s.length + 2 ≤ fuel) :
    readValue fuel s = readValue (fuel + 1) s
  items {s : List Char} (enough : 2 * s.length + 3 ≤ fuel) :
    readItems fuel s = readItems (fuel + 1) s
  members {s : List Char} (enough : 2 * s.length + 2 ≤ fuel) :
    readMembers fuel s = readMembers (fuel + 1) s

namespace Settled

variable (settled : Settled fuel)

include settled

theorem value_succ (enough : 2 * s.length + 2 ≤ fuel + 1) :
    readValue (fuel + 1) s = readValue (fuel + 2) s := by
  have fewer {c : Char} {after : List Char} (opened : skipSpaces s = c :: after) :
      2 * (skipSpaces after).length + 3 ≤ fuel := by
    have := length_lt_of_skipSpaces opened
    have := (skipSpaces_suffix after).length_le
    omega
  rw [readValue, readValue]
  split
  · next opened =>
    split
    · rfl
    · rw [settled.items (fewer opened)]
  · next opened =>
    split
    · rfl
    · rw [settled.members (Nat.le_of_succ_le (fewer opened))]
  · rfl

theorem items_succ (enough : 2 * s.length + 3 ≤ fuel + 1) :
    readItems (fuel + 1) s = readItems (fuel + 2) s := by
  rw [readItems, readItems, ← settled.value (by omega)]
  dsimp only
  split
  · rfl
  · next after comma =>
    split
    · rfl
    · have := (leavesEnds fuel).length_lt_of_value comma
      have := (skipSpaces_suffix after).length_le
      rw [settled.items (by omega)]
  · rfl

theorem members_succ (enough : 2 * s.length + 2 ≤ fuel + 1) :
    readMembers (fuel + 1) s = readMembers (fuel + 2) s := by
  rw [readMembers, readMembers]
  split
  · next opened =>
    split
    · rfl
    · next body =>
      split
      · next colon =>
        have := length_lt_of_skipSpaces opened
        have := (suffix_of_stringBody? body).length_le
        have := length_lt_of_skipSpaces colon
        rw [← settled.value (by omega)]
        dsimp only
        split
        · rfl
        · next comma =>
          have := (leavesEnds fuel).length_lt_of_value comma
          rw [settled.members (by omega)]
        · rfl
      · rfl
  · rfl

end Settled

theorem settled (fuel : Nat) : Settled fuel := by
  induction fuel with
  | zero => exact ⟨nofun, nofun, nofun⟩
  | succ fuel ih => exact ⟨ih.value_succ, ih.items_succ, ih.members_succ⟩

/-- **The fuel of a document is enough for every text:** any more gives the same. -/
theorem readValue_eq_of_le (enough : 2 * s.length + 2 ≤ fuel) :
    readValue fuel s = readValue (2 * s.length + 2) s := by
  induction fuel, enough using Nat.le_induction with
  | base => rfl
  | succ fuel le ih => rw [← (settled fuel).value le, ih]

end Json
end Gradebook
