/-
# Reading gets through a pattern

A class in brackets and a group in parentheses take up characters of their own before anything is
read within them, and so does every item before the one that follows it. So calls are nested, and
follow one another, no more than twice for every character, and from there on more fuel changes
nothing, in a class (`Pattern.readClass?_eq_of_le`) as in a pattern
(`Pattern.readBranches?_eq_of_le`).
-/

import Gradebook.Pattern.Reading
import Mathlib.Order.Basic
import Mathlib.Order.Nat

namespace Gradebook
namespace Pattern

variable {verbose : Bool} {s rest : List Char} {fuel : Nat}

/-! ## Escapes -/

theorem length_le_of_readDigits? {count value given : Nat}
    (read : readDigits? verbose count value s = some (given, rest)) :
    rest.length ≤ s.length := by
  fun_induction readDigits? verbose count value s with
  | case1 => cases read; exact le_refl _
  | case2 => cases read
  | case3 value count s c after found ih =>
    obtain ⟨digit, -, read⟩ := Option.bind_eq_some_iff.1 read
    exact (ih digit read).trans (length_lt_of_skipBlanks found).le

theorem length_le_of_readCode? {count : Nat} {item : Pattern}
    (read : readCode? verbose count s = some (item, rest)) : rest.length ≤ s.length := by
  obtain ⟨⟨value, after⟩, digits, read⟩ := Option.bind_eq_some_iff.1 read
  dsimp only at read
  split at read
  · cases read
    exact length_le_of_readDigits? digits
  · cases read

/-- An escape is at least a character. -/
theorem length_lt_of_readEscape? {item : Pattern}
    (read : readEscape? verbose s = some (item, rest)) : rest.length < s.length := by
  cases s with
  | nil => cases read
  | cons c after =>
    refine Nat.lt_succ_of_le ?_
    unfold readEscape? at read
    dsimp only at read
    split at read
    case h_1 | h_2 | h_3 => exact length_le_of_readCode? read
    case h_22 =>
      obtain ⟨-, pair⟩ := Option.ite_none_right_eq_some.1 read
      cases pair
      exact le_refl _
    all_goals
      cases read
      exact le_refl _

/-! ## Classes -/

theorem length_readCaret_le (s : List Char) : (readCaret s).2.length ≤ s.length := by
  unfold readCaret
  split
  · exact Nat.le_succ _
  · exact le_refl _

theorem length_lt_of_readAscii? {item : ClassItem}
    (read : readAscii? s = some (item, rest)) : rest.length < s.length := by
  unfold readAscii? at read
  split at read
  · next after =>
    dsimp only at read
    split at read
    · next found =>
      obtain ⟨-, pair⟩ := Option.ite_none_right_eq_some.1 read
      cases pair
      have left := (List.dropWhile_suffix (· ≠ ':')).length_le.trans (length_readCaret_le after)
      rw [found] at left
      exact Nat.lt_succ_of_le ((Nat.le_add_right _ 2).trans left)
    · cases read
  · cases read

theorem length_lt_of_readMember? {item : ClassItem}
    (read : readMember? verbose s = some (item, rest)) : rest.length < s.length := by
  unfold readMember? at read
  split at read
  · cases read
  · split at read
    · next escape =>
      cases read
      exact Nat.lt_succ_of_lt (length_lt_of_readEscape? escape)
    · next escape =>
      cases read
      exact Nat.lt_succ_of_lt (length_lt_of_readEscape? escape)
    · cases read
  · cases read
    exact Nat.lt_succ_self _

theorem length_lt_of_readMembers? {item : ClassItem}
    (read : readMembers? verbose s = some (item, rest)) : rest.length < s.length := by
  obtain ⟨⟨first, between⟩, member, read⟩ := Option.bind_eq_some_iff.1 read
  have one := length_lt_of_readMember? member
  have blanks := length_skipBlanks_le verbose between
  dsimp only at read
  split at read
  · next after hyphen =>
    rw [hyphen] at blanks
    split at read
    · cases read
      exact blanks.trans_lt one
    · obtain ⟨⟨last, end_⟩, member, read⟩ := Option.bind_eq_some_iff.1 read
      obtain ⟨_, -, pair⟩ := Option.bind_eq_some_iff.1 read
      cases pair
      have two := (length_lt_of_readMember? member).trans_le (length_skipBlanks_le verbose after)
      rw [List.length_cons] at blanks
      dsimp only
      omega
  · cases read
    exact blanks.trans_lt one

theorem length_lt_of_operator? {operator : ClassOperator}
    (read : operator? s = some (operator, rest)) : rest.length < s.length := by
  unfold operator? at read
  split at read
  · cases read
    exact Nat.lt_succ_of_lt (Nat.lt_succ_self _)
  · cases read
    exact Nat.lt_succ_of_lt (Nat.lt_succ_self _)
  · cases read
    exact Nat.lt_succ_of_lt (Nat.lt_succ_self _)
  · cases read

theorem length_readHead_le (verbose : Bool) (c : OpenClass) (s : List Char) :
    (readHead verbose c s).2.length ≤ s.length := by
  fun_induction readHead verbose c s with
  | case1 c s after found ih => exact ih.trans (length_lt_of_skipBlanks found).le
  | case2 c s after found => exact (length_lt_of_skipBlanks found).le
  | case3 | case4 => exact le_refl _

/-- **What is left after a class** is less than the text. -/
structure ClassShortens (fuel : Nat) : Prop where
  content {verbose : Bool} {c : OpenClass} {s rest : List Char} {content : ClassContent} :
    readContent? verbose fuel c s = some (content, rest) → rest.length < s.length
  whole {verbose negated : Bool} {s rest : List Char} {content : ClassContent} :
    readClass? verbose fuel s = some (negated, content, rest) → rest.length < s.length

namespace ClassShortens

variable (shortens : ClassShortens fuel)

include shortens

theorem content_succ {c : OpenClass} {content : ClassContent}
    (read : readContent? verbose (fuel + 1) c s = some (content, rest)) :
    rest.length < s.length := by
  rw [readContent?] at read
  split at read
  · cases read
  · next closed =>
    cases read
    exact length_lt_of_skipBlanks closed
  · next after opened =>
    have one := length_lt_of_skipBlanks opened
    split at read
    · next ascii =>
      exact (shortens.content read).trans <| (length_lt_of_readAscii? ascii).trans one
    · obtain ⟨⟨negated, nested, between⟩, inner, read⟩ := Option.bind_eq_some_iff.1 read
      exact (shortens.content read).trans <| (shortens.whole inner).trans one
  · have blanks := length_skipBlanks_le verbose s
    split at read
    · next operator =>
      exact (shortens.content read).trans <| (length_lt_of_operator? operator).trans_le blanks
    · obtain ⟨⟨item, between⟩, member, read⟩ := Option.bind_eq_some_iff.1 read
      exact (shortens.content read).trans <| (length_lt_of_readMembers? member).trans_le blanks

theorem whole_succ {negated : Bool} {content : ClassContent}
    (read : readClass? verbose (fuel + 1) s = some (negated, content, rest)) :
    rest.length < s.length := by
  rw [readClass?] at read
  obtain ⟨⟨content, between⟩, inner, pair⟩ := Option.bind_eq_some_iff.1 read
  cases pair
  exact (shortens.content inner).trans_le <| (length_readHead_le verbose ..).trans <|
    (length_readCaret_le _).trans (length_skipBlanks_le verbose s)

end ClassShortens

theorem classShortens (fuel : Nat) : ClassShortens fuel := by
  induction fuel with
  | zero => exact ⟨nofun, nofun⟩
  | succ fuel ih => exact ⟨ih.content_succ, ih.whole_succ⟩

/-- **More fuel changes nothing** in a class where the fuel is enough for the text. -/
structure ClassSettled (fuel : Nat) : Prop where
  content {verbose : Bool} {c : OpenClass} {s : List Char} (enough : 2 * s.length + 1 ≤ fuel) :
    readContent? verbose fuel c s = readContent? verbose (fuel + 1) c s
  whole {verbose : Bool} {s : List Char} (enough : 2 * s.length + 2 ≤ fuel) :
    readClass? verbose fuel s = readClass? verbose (fuel + 1) s

namespace ClassSettled

variable (settled : ClassSettled fuel)

include settled

theorem content_succ {c : OpenClass} (enough : 2 * s.length + 1 ≤ fuel + 1) :
    readContent? verbose (fuel + 1) c s = readContent? verbose (fuel + 2) c s := by
  rw [readContent?, readContent?]
  split
  · rfl
  · rfl
  · next opened =>
    have one := length_lt_of_skipBlanks opened
    split
    · next ascii =>
      have less := length_lt_of_readAscii? ascii
      exact settled.content (by omega)
    · rw [← settled.whole (by omega)]
      refine Option.bind_congr fun (negated, nested, between) inner => ?_
      have less := (classShortens fuel).whole inner
      exact settled.content (by omega)
  · have blanks := length_skipBlanks_le verbose s
    split
    · next operator =>
      have less := length_lt_of_operator? operator
      exact settled.content (by omega)
    · refine Option.bind_congr fun (item, between) member => ?_
      have less := length_lt_of_readMembers? member
      exact settled.content (by omega)

theorem whole_succ (enough : 2 * s.length + 2 ≤ fuel + 1) :
    readClass? verbose (fuel + 1) s = readClass? verbose (fuel + 2) s := by
  rw [readClass?, readClass?]
  have caret := (length_readCaret_le _).trans (length_skipBlanks_le verbose s)
  have head := (length_readHead_le verbose {} _).trans caret
  dsimp only
  rw [settled.content (by omega)]

end ClassSettled

theorem classSettled (fuel : Nat) : ClassSettled fuel := by
  induction fuel with
  | zero => exact ⟨nofun, nofun⟩
  | succ fuel ih => exact ⟨ih.content_succ, ih.whole_succ⟩

/-- **The fuel of a class is enough for every text:** any more gives the same. -/
theorem readClass?_eq_of_le (enough : 2 * s.length + 2 ≤ fuel) :
    readClass? verbose fuel s = readClass? verbose (2 * s.length + 2) s := by
  induction fuel, enough using Nat.le_induction with
  | base => rfl
  | succ fuel le ih => rw [← (classSettled fuel).whole le, ih]

/-! ## Groups -/

theorem length_le_of_readName? {opening : Opening}
    (read : readName? s = some (opening, rest)) : rest.length ≤ s.length := by
  unfold readName? at read
  dsimp only at read
  split at read
  · next bracket =>
    obtain ⟨-, pair⟩ := Option.ite_none_right_eq_some.1 read
    cases pair
    have left : (s.dropWhile (· ≠ '>')).length ≤ s.length := (List.dropWhile_suffix _).length_le
    rw [bracket] at left
    exact (Nat.le_succ _).trans left
  · cases read

theorem length_le_of_readChange? {opening : Opening}
    (read : readChange? s = some (opening, rest)) : rest.length ≤ s.length := by
  obtain ⟨flags, -, read⟩ := Option.bind_eq_some_iff.1 read
  have left := (List.drop_suffix (s.takeWhile fun c => c ≠ ':' && c ≠ ')').length s).length_le
  split at read
  · next colon =>
    cases read
    rw [colon] at left
    exact (Nat.le_succ _).trans left
  · next closing =>
    split at read
    · cases read
    · cases read
      rw [closing] at left
      exact (Nat.le_succ _).trans left
  · cases read

theorem length_le_of_readOpening? {opening : Opening}
    (read : readOpening? verbose s = some (opening, rest)) : rest.length ≤ s.length := by
  have blanks := length_skipBlanks_le verbose s
  unfold readOpening? at read
  split at read
  · cases read
  · cases read
  · next found =>
    rw [found] at blanks
    exact (length_le_of_readName? read).trans ((Nat.le_add_right _ 3).trans blanks)
  · next found =>
    rw [found] at blanks
    exact (length_le_of_readName? read).trans ((Nat.le_add_right _ 2).trans blanks)
  · next found =>
    rw [found] at blanks
    exact (length_le_of_readChange? read).trans ((Nat.le_add_right _ 1).trans blanks)
  · cases read
    exact blanks

theorem length_lt_of_readItem? {item : Pattern}
    (read : readItem? verbose s = some (item, rest)) : rest.length < s.length := by
  unfold readItem? at read
  split at read
  · cases read
  · exact Nat.lt_succ_of_lt (length_lt_of_readEscape? read)
  · cases read
    exact Nat.lt_succ_self _
  · cases read
    exact Nat.lt_succ_self _
  · cases read
    exact Nat.lt_succ_self _
  · cases read
  · cases read
    exact Nat.lt_succ_self _

/-! ## Patterns -/

theorem length_skipLazy_le (s : List Char) : (skipLazy s).length ≤ s.length := by
  unfold skipLazy
  split
  · exact Nat.le_succ _
  · exact le_refl _

/-- **What is left after branches or a sequence** is no more than the text. -/
structure Shortens (fuel : Nat) : Prop where
  branches {verbose : Bool} {s rest : List Char} {branches : List Pattern} :
    readBranches? fuel verbose s = some (branches, rest) → rest.length ≤ s.length
  sequence {verbose verbose' : Bool} {before items : List Pattern} {s rest : List Char} :
    readSequence? fuel verbose before s = some (items, verbose', rest) → rest.length ≤ s.length

namespace Shortens

variable (shortens : Shortens fuel)

include shortens

theorem branches_succ {branches : List Pattern}
    (read : readBranches? (fuel + 1) verbose s = some (branches, rest)) :
    rest.length ≤ s.length := by
  rw [readBranches?] at read
  obtain ⟨⟨items, verbose', between⟩, sequence, read⟩ := Option.bind_eq_some_iff.1 read
  have first := shortens.sequence sequence
  dsimp only at read
  split at read
  · obtain ⟨⟨others, left⟩, branches, pair⟩ := Option.bind_eq_some_iff.1 read
    cases pair
    exact (shortens.branches branches).trans ((Nat.le_succ _).trans first)
  · cases read
    exact first

theorem sequence_succ {verbose' : Bool} {before items : List Pattern}
    (read : readSequence? (fuel + 1) verbose before s = some (items, verbose', rest)) :
    rest.length ≤ s.length := by
  rw [readSequence?] at read
  have blanks := length_skipBlanks_le verbose s
  split at read
  · cases read
    exact Nat.zero_le _
  · next found =>
    cases read
    exact found ▸ blanks
  · next found =>
    cases read
    exact found ▸ blanks
  · next opened =>
    have one := (length_lt_of_skipBlanks opened).le
    obtain ⟨⟨opening, between⟩, head, read⟩ := Option.bind_eq_some_iff.1 read
    have left := (length_le_of_readOpening? head).trans one
    cases opening with
    | change flags => exact (shortens.sequence read).trans left
    | group name flags =>
      obtain ⟨⟨branches, after⟩, inner, read⟩ := Option.bind_eq_some_iff.1 read
      have inside := (shortens.branches inner).trans left
      split at read
      · next closed =>
        cases closed
        exact (shortens.sequence read).trans ((Nat.le_succ _).trans inside)
      · cases read
  · next opened =>
    have one := (length_lt_of_skipBlanks opened).le
    obtain ⟨⟨negated, content, between⟩, inner, read⟩ := Option.bind_eq_some_iff.1 read
    exact (shortens.sequence read).trans <| ((classShortens _).whole inner).le.trans one
  · next after _ _ _ _ found =>
    have one := (length_lt_of_skipBlanks found).le
    split at read
    · obtain ⟨repeated, -, read⟩ := Option.bind_eq_some_iff.1 read
      exact (shortens.sequence read).trans <| (length_skipLazy_le after).trans one
    · obtain ⟨⟨item, between⟩, single, read⟩ := Option.bind_eq_some_iff.1 read
      have single := Nat.le_of_lt_succ (length_lt_of_readItem? single)
      exact (shortens.sequence read).trans (single.trans one)

end Shortens

theorem shortens (fuel : Nat) : Shortens fuel := by
  induction fuel with
  | zero => exact ⟨nofun, nofun⟩
  | succ fuel ih => exact ⟨ih.branches_succ, ih.sequence_succ⟩

/-- **More fuel changes nothing** in a pattern where the fuel is enough for the text. -/
structure Settled (fuel : Nat) : Prop where
  branches {verbose : Bool} {s : List Char} (enough : 2 * s.length + 2 ≤ fuel) :
    readBranches? fuel verbose s = readBranches? (fuel + 1) verbose s
  sequence {verbose : Bool} {before : List Pattern} {s : List Char}
    (enough : 2 * s.length + 1 ≤ fuel) :
    readSequence? fuel verbose before s = readSequence? (fuel + 1) verbose before s

namespace Settled

variable (settled : Settled fuel)

include settled

theorem branches_succ (enough : 2 * s.length + 2 ≤ fuel + 1) :
    readBranches? (fuel + 1) verbose s = readBranches? (fuel + 2) verbose s := by
  rw [readBranches?, readBranches?, ← settled.sequence (by omega)]
  refine Option.bind_congr fun (items, verbose', between) sequence => ?_
  have left := (shortens fuel).sequence sequence
  dsimp only
  split
  · rw [List.length_cons] at left
    rw [settled.branches (by omega)]
  · rfl

theorem sequence_succ {before : List Pattern} (enough : 2 * s.length + 1 ≤ fuel + 1) :
    readSequence? (fuel + 1) verbose before s = readSequence? (fuel + 2) verbose before s := by
  rw [readSequence?, readSequence?]
  split
  · rfl
  · rfl
  · rfl
  · next opened =>
    have one := length_lt_of_skipBlanks opened
    refine Option.bind_congr fun (opening, between) head => ?_
    have left := length_le_of_readOpening? head
    cases opening with
    | change flags => exact settled.sequence (by omega)
    | group name flags =>
      dsimp only
      rw [← settled.branches (by omega)]
      refine Option.bind_congr fun (branches, after) inner => ?_
      have inside := (shortens fuel).branches inner
      split
      · next closed =>
        cases closed
        rw [List.length_cons] at inside
        exact settled.sequence (by omega)
      · rfl
  · next opened =>
    have one := length_lt_of_skipBlanks opened
    refine Option.bind_congr fun (negated, content, between) inner => ?_
    have left := (classShortens _).whole inner
    exact settled.sequence (by omega)
  · next after _ _ _ _ found =>
    have one := length_lt_of_skipBlanks found
    split
    · have left := length_skipLazy_le after
      refine Option.bind_congr fun repeated _ => ?_
      exact settled.sequence (by omega)
    · refine Option.bind_congr fun (item, between) single => ?_
      have left := Nat.le_of_lt_succ (length_lt_of_readItem? single)
      exact settled.sequence (by omega)

end Settled

theorem settled (fuel : Nat) : Settled fuel := by
  induction fuel with
  | zero => exact ⟨nofun, nofun⟩
  | succ fuel ih => exact ⟨ih.branches_succ, ih.sequence_succ⟩

/-- **The fuel of a pattern is enough for every text:** any more gives the same. -/
theorem readBranches?_eq_of_le (enough : 2 * s.length + 2 ≤ fuel) :
    readBranches? fuel verbose s = readBranches? (2 * s.length + 2) verbose s := by
  induction fuel, enough using Nat.le_induction with
  | base => rfl
  | succ fuel le ih => rw [← (settled fuel).branches le, ih]

end Pattern
end Gradebook
