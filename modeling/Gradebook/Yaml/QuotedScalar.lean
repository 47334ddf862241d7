/-
# Quoted scalars

In single quotes a quote is written twice and nothing else is special. In double quotes a
backslash starts an escape; before a line break it joins the lines.
-/

import Gradebook.Text.Hexadecimal
import Gradebook.Yaml.Fold

namespace Gradebook
namespace Yaml

/-- The escapes of one letter. -/
def escapeChar? : Char → Option Char
  | '0' => some '\x00'
  | 'a' => some '\x07'
  | 'b' => some '\x08'
  | 't' => some '\t'
  | '\t' => some '\t'
  | 'n' => some '\n'
  | 'v' => some '\x0b'
  | 'f' => some '\x0c'
  | 'r' => some '\r'
  | 'e' => some '\x1b'
  | ' ' => some ' '
  | '"' => some '"'
  | '/' => some '/'
  | '\\' => some '\\'
  | 'N' => some '\u0085'
  | '_' => some '\u00a0'
  | 'L' => some '\u2028'
  | 'P' => some '\u2029'
  | _ => none

/-- The number of hexadecimal digits of the escapes that have them. -/
def escapeDigits? : Char → Option Nat
  | 'x' => some 2
  | 'u' => some 4
  | 'U' => some 8
  | _ => none

/-- Whether a number is the code point of a character. -/
def isCodePoint (n : Nat) : Bool := n < 0xD800 || (0xDFFF < n && n ≤ 0x10FFFF)

/-- An escape after its backslash, and the characters it takes up. -/
def readEscape : List Char → Except Fault (Char × Nat)
  | [] => .error .escape
  | letter :: rest =>
    match escapeChar? letter, escapeDigits? letter with
    | some c, _ => .ok (c, 1)
    | none, some count =>
      match Text.takeHex? count rest with
      | some (code, _) =>
        if isCodePoint code then .ok (Char.ofNat code, count + 1) else .error .escape
      | none => .error .escape
    | none, none => .error .escape

/-- Reads the words and gaps of a quoted scalar up to its closing quote; what was read before
is given in reverse. `start` says that the cursor is at the start of a word, where a document
mark is refused. -/
def quotedParts (single start : Bool) (c : Cursor) (reversed : List Char) :
    Except Fault (List Char × Cursor) :=
  if start && c.column = 0 && atDocumentMark c.rest then .error .unclosedQuote
  else
    match _ : c.rest with
    | [] => .error .unclosedQuote
    | ch :: rest =>
      if isSpaceOrBreak ch then
        match _ : readGap none c {} with
        | .error fault => .error fault
        | .ok (gap, next) => quotedParts single true next (gap.text.reverse ++ reversed)
      else if single then
        if ch = '\'' then
          if headIs (· = '\'') rest then
            quotedParts single false (c.advance 2) ('\'' :: reversed)
          else .ok (reversed.reverse, c.advance 1)
        else quotedParts single false (c.advance 1) (ch :: reversed)
      else if ch = '"' then .ok (reversed.reverse, c.advance 1)
      else if ch = '\\' then
        if headIs isBreak rest then
          match _ : readGap none (c.advance 1).skipBreak { broken := true } with
          | .error fault => .error fault
          | .ok (gap, next) => quotedParts single true next (gap.text.reverse ++ reversed)
        else do
          let (escaped, count) ← readEscape rest
          quotedParts single false (c.advance (count + 1)) (escaped :: reversed)
      else quotedParts single false (c.advance 1) (ch :: reversed)
termination_by c.left
decreasing_by
  · exact left_lt_of_readGap (Cursor.headIs_of_rest_eq_cons ‹_› ‹_›) ‹_›
  · exact Cursor.left_advance_lt ‹_› Nat.two_pos
  · exact Cursor.left_advance_lt ‹_› Nat.one_pos
  · have joined := Nat.le_trans (left_le_of_readGap ‹_›) (Cursor.left_skipBreak_le _)
    exact Nat.lt_of_le_of_lt joined (Cursor.left_advance_lt ‹_› Nat.one_pos)
  · exact Cursor.left_advance_lt ‹_› (Nat.succ_pos _)
  · exact Cursor.left_advance_lt ‹_› Nat.one_pos

/-- **Reads a quoted scalar,** with the cursor at its opening quote. -/
def readQuoted (single : Bool) (c : Cursor) : Except Fault (List Char × Cursor) :=
  quotedParts single true (c.advance 1) []

end Yaml
end Gradebook
