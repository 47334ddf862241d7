/-
# Plain scalars

A plain scalar has no quotes. It ends at a colon before a gap, at a comment after a gap, in a
flow collection at its punctuation, in a block at a line that is not indented more than the
block, and at a document mark.
-/

import Gradebook.Yaml.Fold

namespace Gradebook
namespace Yaml

def isFlowPunctuation (c : Char) : Bool :=
  c = ',' || c = '[' || c = ']' || c = '\x7b' || c = '\x7d'

/-- The characters of a word up to its end. A colon right before punctuation is refused in a
flow collection. -/
def plainWord (inFlow : Bool) : List Char → Except Fault (List Char)
  | [] => .ok []
  | c :: rest =>
    if isSpaceOrBreak c then .ok []
    else if inFlow && c = ':' && headIs (fun n => isFlowPunctuation n || n = '?') rest then
      .error .colonInFlow
    else if (c = ':' && atGap rest) || (inFlow && isFlowPunctuation c) then .ok []
    else (plainWord inFlow rest).map (c :: ·)

/-- A plain scalar as it was read. -/
structure PlainScalar where
  text : List Char
  /-- Whether a line break came after its last word. -/
  endsLine : Bool
  cursor : Cursor

/-- The words of a plain scalar after those already read and the gap after them. -/
def plainWords (inFlow : Bool) (least : Nat) (c : Cursor) (text : List Char) (gap : Gap) :
    Except Fault PlainScalar := do
  if (c.column = 0 && atDocumentMark c.rest) || headIs (· = '#') c.rest then
    return ⟨text, gap.broken, c⟩
  let word ← plainWord inFlow c.rest
  let after := c.advance word.length
  let text := if word.isEmpty then text else text ++ gap.text ++ word
  let gap : Gap := if word.isEmpty then gap else {}
  if _ : headIs isSpaceOrBreak after.rest then
    match _ : readGap (some least) after gap with
    | .error fault => throw fault
    | .ok (gap, next) =>
      if !inFlow && next.column < least then return ⟨text, gap.broken, next⟩
      plainWords inFlow least next text gap
  else return ⟨text, gap.broken, after⟩
termination_by c.left
decreasing_by
  exact Nat.lt_of_lt_of_le (left_lt_of_readGap ‹_› ‹_›) (Cursor.left_advance_le ..)

/-- **Reads a plain scalar.** In a block, its further lines start at column `least` or after
it. -/
def readPlain (inFlow : Bool) (least : Nat) (c : Cursor) : Except Fault PlainScalar :=
  plainWords inFlow least c [] {}

end Yaml
end Gradebook
