/-
# Gaps in scalars

Between the words of a plain or quoted scalar there may be blanks and line breaks. Blanks
within a line are kept. Around line breaks they are dropped, and the line breaks are *folded*:
a single line feed becomes a space, of several all but the first are kept.
-/

import Gradebook.Yaml.Cursor
import Gradebook.Yaml.Fault

namespace Gradebook
namespace Yaml

/-- A gap between words. -/
structure Gap where
  /-- The blanks before any line break. -/
  blanks : List Char := []
  /-- Whether a line break was met. -/
  broken : Bool := false
  firstBreak : List Char := []
  moreBreaks : List Char := []

/-- What a first line break and the line breaks after it are folded to. -/
def foldBreaks (firstBreak moreBreaks : List Char) : List Char :=
  if firstBreak = ['\n'] then (if moreBreaks.isEmpty then [' '] else moreBreaks)
  else firstBreak ++ moreBreaks

/-- What a gap is read as. -/
def Gap.text (g : Gap) : List Char :=
  if g.broken then foldBreaks g.firstBreak g.moreBreaks else g.blanks

/-- **Reads a gap.** Where `least` is given, a tab before that column of a new line is
refused. -/
def readGap (least : Option Nat) (c : Cursor) (g : Gap) : Except Fault (Gap × Cursor) :=
  match _ : c.rest with
  | [] => .ok (g, c)
  | ch :: _ =>
    if isSpaceOrTab ch then
      if g.broken then
        if ch = '\t' && least.any fun least => c.column < least then .error .tab
        else readGap least (c.advance 1) g
      else readGap least (c.advance 1) { g with blanks := g.blanks ++ [ch] }
    else if isBreak ch then
      if g.broken then
        readGap least c.skipBreak { g with moreBreaks := g.moreBreaks ++ c.breakText }
      else readGap least c.skipBreak { broken := true, firstBreak := c.breakText }
    else .ok (g, c)
termination_by c.left
decreasing_by
  · exact Cursor.left_advance_lt ‹_› Nat.one_pos
  · exact Cursor.left_advance_lt ‹_› Nat.one_pos
  · exact Cursor.left_skipBreak_lt (Cursor.headIs_of_rest_eq_cons ‹_› ‹_›)
  · exact Cursor.left_skipBreak_lt (Cursor.headIs_of_rest_eq_cons ‹_› ‹_›)

variable {least : Option Nat} {c next : Cursor} {g gap : Gap}

theorem left_le_of_readGap (read : readGap least c g = .ok (gap, next)) : next.left ≤ c.left := by
  fun_induction readGap least c g with
  | case1 => cases read; exact Nat.le_refl _
  | case2 => cases read
  | case3 c g ch rest text _ _ _ ih | case4 c g ch rest text _ _ ih =>
    exact Nat.le_trans (ih read) (Nat.le_of_lt (Cursor.left_advance_lt text Nat.one_pos))
  | case5 c g ch rest text _ _ _ ih | case6 c g ch rest text _ _ _ ih =>
    exact Nat.le_trans (ih read) (Cursor.left_skipBreak_le c)
  | case7 => cases read; exact Nat.le_refl _

/-- **A gap that is there** is passed. -/
theorem left_lt_of_readGap (head : headIs isSpaceOrBreak c.rest = true)
    (read : readGap least c g = .ok (gap, next)) : next.left < c.left := by
  revert read
  fun_cases readGap least c g with
  | case1 text => rw [text] at head; cases head
  | case2 => exact nofun
  | case3 ch rest text | case4 ch rest text =>
    exact fun read => Nat.lt_of_le_of_lt (left_le_of_readGap read)
      (Cursor.left_advance_lt text Nat.one_pos)
  | case5 ch rest text _ atBreak | case6 ch rest text _ atBreak =>
    exact fun read => Nat.lt_of_le_of_lt (left_le_of_readGap read)
      (Cursor.left_skipBreak_lt (Cursor.headIs_of_rest_eq_cons text atBreak))
  | case7 ch rest text space atBreak =>
    rw [text] at head
    simp [headIs, isSpaceOrBreak, space, atBreak] at head

end Yaml
end Gradebook
