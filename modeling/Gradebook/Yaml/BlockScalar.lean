/-
# Block scalars

A block scalar is a header and the indented lines after it. In the literal form its line
breaks are kept; in the folded form a line feed between two lines that do not start with a
blank is folded. The header may fix the indentation, which is otherwise that of the first line
that is not empty, and what becomes of the line breaks at the end.
-/

import Gradebook.Yaml.Fold

namespace Gradebook
namespace Yaml

/-- What becomes of the line breaks at the end of a block scalar. -/
inductive Chomping where
  | strip
  | clip
  | keep
deriving DecidableEq

/-- What a header says. -/
structure BlockHeader where
  chomping : Chomping := .clip
  /-- How much deeper than the block around it the lines are, if the header says so. -/
  increment : Option Nat := none

def chomping? (c : Char) : Option Chomping :=
  if c = '+' then some .keep else if c = '-' then some .strip else none

/-- A chomping sign and a digit in either order, each of them optional, and the number of
characters they take. -/
def readHeader (s : List Char) : Except Fault (BlockHeader × Nat) :=
  let digit? (s : List Char) : Option Nat := match s with
    | c :: _ => if c.isDigit then some (c.toNat - '0'.toNat) else none
    | [] => none
  let sign? (s : List Char) : Option Chomping := s.head?.bind chomping?
  match sign? s with
  | some chomping =>
    match digit? (s.drop 1) with
    | some 0 => .error .blockHeader
    | some n => .ok (⟨chomping, some n⟩, 2)
    | none => .ok (⟨chomping, none⟩, 1)
  | none =>
    match digit? s with
    | some 0 => .error .blockHeader
    | some n =>
      match sign? (s.drop 1) with
      | some chomping => .ok (⟨chomping, some n⟩, 2)
      | none => .ok (⟨.clip, some n⟩, 1)
    | none => .ok ({}, 0)

/-- The empty lines before a line of text. -/
structure EmptyLines where
  breaks : List Char
  /-- The greatest column that was reached by spaces. -/
  widest : Nat
  cursor : Cursor

/-- Goes past empty lines and the indentation of the line after them. Where the indentation is
not known yet all spaces are taken for it. -/
def skipEmptyLines (indent : Option Nat) (c : Cursor) (found : EmptyLines) :
    Except Fault EmptyLines :=
  let spaces := (c.rest.takeWhile (· = ' ')).length
  let taken := match indent with
    | some n => Nat.min spaces (n - c.column)
    | none => spaces
  let next := c.advance taken
  let found := { found with widest := Nat.max found.widest next.column }
  let inIndent := indent.all fun n => next.column < n
  if inIndent && headIs (· = '\t') next.rest then .error .tab
  else if _ : headIs isBreak next.rest then
    skipEmptyLines indent next.skipBreak { found with breaks := found.breaks ++ next.breakText }
  else .ok { found with cursor := next }
termination_by c.left
decreasing_by
  exact Nat.lt_of_lt_of_le (Cursor.left_skipBreak_lt ‹_›) (Cursor.left_advance_le ..)

theorem left_le_of_skipEmptyLines {indent : Option Nat} {c : Cursor} {found lines : EmptyLines}
    (skipped : skipEmptyLines indent c found = .ok lines) : lines.cursor.left ≤ c.left := by
  fun_induction skipEmptyLines indent c found with
  | case1 => cases skipped
  | case2 c found spaces taken next found' inIndent _ atBreak ih =>
    refine Nat.le_trans (ih skipped) ?_
    exact Nat.le_trans (Cursor.left_skipBreak_le _) (Cursor.left_advance_le ..)
  | case3 =>
    cases skipped
    exact Cursor.left_advance_le ..

/-- The lines of a block scalar as far as they are read. -/
structure BlockLines where
  text : List Char := []
  /-- The line break after the last line. -/
  lastBreak : List Char := []
  /-- The line breaks of the empty lines after it. -/
  emptyBreaks : List Char := []
  /-- Whether the last line started with a blank. -/
  blankStart : Bool := false

/-- What stands between two lines. -/
def BlockLines.joint (b : BlockLines) (literal blankStart : Bool) : List Char :=
  if !literal && b.lastBreak = ['\n'] && !b.blankStart && !blankStart then
    (if b.emptyBreaks.isEmpty then [' '] else b.emptyBreaks)
  else b.lastBreak ++ b.emptyBreaks

/-- Reads the lines that start at the column of the indentation. -/
def readBlockLines (literal : Bool) (indent : Nat) (c : Cursor) (b : BlockLines) :
    Except Fault (BlockLines × Cursor) :=
  match _ : c.rest with
  | [] => .ok (b, c)
  | ch :: _ =>
    if c.column ≠ indent then .ok (b, c)
    else
      let blankStart := isSpaceOrTab ch
      let line := c.rest.takeWhile fun ch => !isBreak ch
      let ended := c.skipLine
      match _ : skipEmptyLines (some indent) ended.skipBreak ⟨[], 0, c⟩ with
      | .error fault => .error fault
      | .ok after =>
        readBlockLines literal indent after.cursor
          { text := b.text ++ b.joint literal blankStart ++ line
            lastBreak := ended.breakText
            emptyBreaks := after.breaks
            blankStart := blankStart }
termination_by c.left
decreasing_by
  exact Nat.lt_of_le_of_lt (left_le_of_skipEmptyLines ‹_›) (Cursor.left_skipBreak_skipLine_lt ‹_›)

/-- **Reads a block scalar,** with the cursor at its indicator, in a block at column `outer`
(or outside of any block, at -1). -/
def readBlock (literal : Bool) (outer : Int) (c : Cursor) : Except Fault (List Char × Cursor) := do
  let (header, count) ← readHeader (c.rest.drop 1)
  let c := ((c.advance (1 + count)).skipWhile isSpaceOrTab).skipComment
  if !atLineEnd c.rest then throw .blockHeader
  let c := c.skipBreak
  let base := outer.toNat
  let given := header.increment.map fun n => if 0 ≤ outer then base + n else n
  let empty ← skipEmptyLines given c ⟨[], 0, c⟩
  let indent := given.getD (Nat.max empty.widest (Nat.max (outer + 1).toNat 1))
  let (lines, c) ← readBlockLines literal indent empty.cursor { emptyBreaks := empty.breaks }
  let ending := match header.chomping with
    | .strip => []
    | .clip => lines.lastBreak
    | .keep => lines.lastBreak ++ lines.emptyBreaks
  return (lines.text ++ ending, c)

end Yaml
end Gradebook
