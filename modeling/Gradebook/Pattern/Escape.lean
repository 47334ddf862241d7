/-
# Blanks and escapes in patterns

In a verbose pattern blanks do not count, and a number sign starts a comment up to the end of
its line. A backslash gives the character after it another meaning, or takes its meaning away.
-/

import Gradebook.Pattern.Basic
import Gradebook.Text.Blank
import Gradebook.Text.Hexadecimal

namespace Gradebook
namespace Pattern

/-! ## Blanks -/

/-- The text after blanks and comments; `inComment` says whether it starts within one. -/
def afterBlanks (inComment : Bool) : List Char → List Char
  | [] => []
  | c :: rest =>
    if inComment then afterBlanks (c ≠ '\n') rest
    else if Text.isBlank c then afterBlanks false rest
    else if c = '#' then afterBlanks true rest
    else c :: rest

/-- The text from the first character on that counts. -/
def skipBlanks (verbose : Bool) (s : List Char) : List Char :=
  if verbose then afterBlanks false s else s

theorem length_afterBlanks_le (inComment : Bool) (s : List Char) :
    (afterBlanks inComment s).length ≤ s.length := by
  fun_induction afterBlanks inComment s with
  | case1 | case5 => exact Nat.le_refl _
  | case2 _ _ ih | case3 _ _ _ _ _ ih | case4 _ _ _ _ ih => exact Nat.le_succ_of_le ih

theorem length_skipBlanks_le (verbose : Bool) (s : List Char) :
    (skipBlanks verbose s).length ≤ s.length := by
  unfold skipBlanks
  split
  · exact length_afterBlanks_le false s
  · exact Nat.le_refl _

theorem length_lt_of_skipBlanks {verbose : Bool} {c : Char} {s rest : List Char}
    (found : skipBlanks verbose s = c :: rest) : rest.length < s.length := by
  have le := length_skipBlanks_le verbose s
  rw [found] at le
  exact le

/-- The character that decides what a hyphen in a class is. In a verbose pattern it stands after
blanks and the first number sign. -/
def deciding? (verbose : Bool) (s : List Char) : Option Char :=
  if verbose then
    match s.dropWhile Text.isBlank with
    | '#' :: rest => (rest.dropWhile Text.isBlank).head?
    | rest => rest.head?
  else s.head?

/-! ## Escapes -/

/-- The value of hexadecimal digits after some that are already read. -/
def readDigits? (verbose : Bool) : Nat → Nat → List Char → Option (Nat × List Char)
  | 0, value, s => some (value, s)
  | count + 1, value, s =>
    match skipBlanks verbose s with
    | [] => none
    | c :: rest => do readDigits? verbose count (value * 16 + (← Text.hexDigit? c)) rest

/-- A character by its code point. -/
def readCode? (verbose : Bool) (count : Nat) (s : List Char) : Option (Pattern × List Char) := do
  let (value, rest) ← readDigits? verbose count 0 s
  if value.isValidChar then some (literal ⟨Char.ofNat value, count = 2⟩, rest) else none

/-- Whether a character may be escaped to stand for itself. -/
def isEscapable (c : Char) : Bool := c.toNat < 0x80 && !c.isAlphanum && c ≠ '<' && c ≠ '>'

/-- **What an escape stands for,** after the backslash. There are no references to groups and no
classes by property. -/
def readEscape? (verbose : Bool) : List Char → Option (Pattern × List Char)
  | [] => none
  | c :: rest =>
    match c with
    | 'x' => readCode? verbose 2 rest
    | 'u' => readCode? verbose 4 rest
    | 'U' => readCode? verbose 8 rest
    | 'd' | 's' | 'w' => some (shorthand false, rest)
    | 'D' | 'S' | 'W' => some (shorthand true, rest)
    | 'a' => some (literal ⟨'\x07', false⟩, rest)
    | 'f' => some (literal ⟨'\x0c', false⟩, rest)
    | 'n' => some (literal ⟨'\n', false⟩, rest)
    | 'r' => some (literal ⟨'\r', false⟩, rest)
    | 't' => some (literal ⟨'\t', false⟩, rest)
    | 'v' => some (literal ⟨'\x0b', false⟩, rest)
    | 'A' | 'z' => some (edge, rest)
    | 'b' | 'B' | '<' | '>' => some (wordEdge, rest)
    | c => if isEscapable c then some (literal ⟨c, false⟩, rest) else none

end Pattern
end Gradebook
