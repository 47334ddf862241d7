/-
# From a text to tokens

Block collections have no brackets. The scanner keeps the column of every open block and emits
the start of a collection where the column grows and its end where it falls back.

Nor does a key have to be marked. Whatever may turn out to be a key is remembered with the
place of its token; when a colon follows on the same line, the token that marks the key is put
in at that place. One such candidate is kept for every open flow collection and one for the
blocks around them. A candidate at the very column of its block has to be a key.
-/

import Gradebook.Yaml.BlockScalar
import Gradebook.Yaml.Plain
import Gradebook.Yaml.QuotedScalar
import Gradebook.Yaml.Tag

namespace Gradebook
namespace Yaml

/-- A token that may turn out to be a key. -/
structure Candidate where
  required : Bool
  /-- The number of tokens before it. -/
  place : Nat
  index : Nat
  line : Nat
  column : Nat

/-- The state of the scanner. -/
structure Scanner where
  cursor : Cursor
  tokens : Array Token := #[]
  /-- The column of the innermost block; -1 outside of any. -/
  column : Int := -1
  /-- The columns of the blocks around it. -/
  outerColumns : List Int := []
  /-- The candidate of the innermost flow collection, or of the blocks. -/
  candidate : Option Candidate := none
  /-- The candidates of what is around it. -/
  outerCandidates : List (Option Candidate) := []
  /-- Whether a key may start here. -/
  keyAllowed : Bool := true

namespace Scanner

variable (s : Scanner)

def inFlow : Bool := !s.outerCandidates.isEmpty

def emit (token : Token) : Scanner := { s with tokens := s.tokens.push token }

/-- Goes forward and emits a token. -/
def emitPast (count : Nat) (token : Token) : Scanner :=
  { s with cursor := s.cursor.advance count }.emit token

/-- Puts a token in at a place among those emitted. -/
def insertAt (place : Nat) (token : Token) : Scanner :=
  { s with tokens := s.tokens.insertIdxIfInBounds place token }

def allowKey (allowed : Bool) : Scanner := { s with keyAllowed := allowed }

/-! ## Candidates -/

/-- Whether a candidate can no longer be a key: it is on an earlier line or more than 1024 bytes
back. -/
def isStale (k : Candidate) : Bool :=
  k.line < s.cursor.line || k.index + 1024 < s.cursor.index

/-- A candidate unless it is stale; it is a fault if a key is required there. -/
def fresh (k : Option Candidate) : Except Fault (Option Candidate) :=
  match k with
  | none => .ok none
  | some k =>
    if !s.isStale k then .ok (some k) else if k.required then .error .keyWithoutColon else .ok none

def dropStale : Except Fault Scanner := do
  let candidate ← s.fresh s.candidate
  let outer ← s.outerCandidates.mapM s.fresh
  return { s with candidate := candidate, outerCandidates := outer }

/-- Gives the candidate up. -/
def dropCandidate : Except Fault Scanner :=
  if s.candidate.any (·.required) then .error .keyWithoutColon
  else .ok { s with candidate := none }

/-- Remembers the next token as a candidate, if a key may start here. -/
def saveCandidate : Except Fault Scanner :=
  if s.keyAllowed then do
    let c := s.cursor
    let saved ← s.dropCandidate
    let required : Bool := !s.inFlow && s.column = c.column
    return { saved with candidate := some ⟨required, s.tokens.size, c.index, c.line, c.column⟩ }
  else .ok s

/-! ## Blocks -/

/-- Opens a block at a column, if it is deeper than the innermost one. Its start is the next
token, or stands at the given place. -/
def openBlock (column : Nat) (place : Option Nat) (token : Token) : Scanner :=
  if s.inFlow || (column : Int) ≤ s.column then s
  else
    let opened := { s with column := column, outerColumns := s.column :: s.outerColumns }
    match place with
    | some place => opened.insertAt place token
    | none => opened.emit token

/-- Closes blocks that are deeper than a column. `outer` holds the columns around them. -/
def closeBlocksIn (column : Int) : List Int → Scanner → Scanner
  | [], s => s
  | outer :: rest, s =>
    if column < s.column then
      closeBlocksIn column rest { s.emit .blockEnd with column := outer, outerColumns := rest }
    else s

/-- Closes the blocks that are deeper than a column. -/
def closeBlocks (column : Int) : Scanner :=
  if s.inFlow then s else closeBlocksIn column s.outerColumns s

/-! ## Blanks and comments -/

/-- Goes past blanks, comments, line breaks and a byte order mark at the head of a line. A tab
counts as a blank where no key may start. -/
def skipToToken (s : Scanner) : Scanner :=
  let marked := s.cursor.skipMark
  let blank := marked.skipWhile fun ch => ch = ' ' || (ch = '\t' && (s.inFlow || !s.keyAllowed))
  let c := blank.skipComment
  if _ : headIs isBreak c.rest then
    skipToToken { s with cursor := c.skipBreak, keyAllowed := s.keyAllowed || !s.inFlow }
  else { s with cursor := c }
termination_by s.cursor.left
decreasing_by
  refine Nat.lt_of_lt_of_le (Cursor.left_skipBreak_lt ‹_›) ?_
  refine Nat.le_trans (Cursor.left_skipComment_le _) ?_
  exact Nat.le_trans (Cursor.left_skipWhile_le ..) (Cursor.left_skipMark_le _)

/-! ## Tokens -/

/-- Closes all blocks, as a directive, a document mark and the end of the text do. -/
def leaveBlocks : Except Fault Scanner := do
  let s ← (s.closeBlocks (-1)).dropCandidate
  return s.allowKey false

def directive : Except Fault Scanner := do
  let s ← s.leaveBlocks
  let (token, cursor) ← readDirective s.cursor
  return { s with cursor := cursor }.emit token

def documentMark (token : Token) : Except Fault Scanner := do
  let s ← s.leaveBlocks
  return s.emitPast 3 token

def openFlow (token : Token) : Except Fault Scanner := do
  let s ← s.saveCandidate
  return { s with
    candidate := none
    outerCandidates := s.candidate :: s.outerCandidates
    keyAllowed := true }.emitPast 1 token

def closeFlow (token : Token) : Except Fault Scanner := do
  let s ← s.dropCandidate
  let closed := match s.outerCandidates with
    | outer :: rest => { s with candidate := outer, outerCandidates := rest }
    | [] => s
  return (closed.allowKey false).emitPast 1 token

def comma : Except Fault Scanner := do
  let s ← s.dropCandidate
  return (s.allowKey true).emitPast 1 .comma

/-- Opens a block for an indicator that stands at the start of an item, key or value. -/
def blockIndicator (token : Token) : Except Fault Scanner :=
  if s.inFlow then .ok s
  else if s.keyAllowed then .ok (s.openBlock s.cursor.column none token)
  else .error .indicator

def item : Except Fault Scanner := do
  let s ← (← s.blockIndicator .blockSequenceStart).dropCandidate
  return (s.allowKey true).emitPast 1 .item

def key : Except Fault Scanner := do
  let s ← (← s.blockIndicator .blockMappingStart).dropCandidate
  return (s.allowKey (!s.inFlow)).emitPast 1 .key

def value : Except Fault Scanner := do
  match s.candidate with
  | some k =>
    let s := (s.insertAt k.place .key).openBlock k.column (some k.place) .blockMappingStart
    return { s with candidate := none, keyAllowed := false }.emitPast 1 .value
  | none =>
    let s ← s.blockIndicator .blockMappingStart
    return (s.allowKey (!s.inFlow)).emitPast 1 .value

def anchor (token : String → Token) : Except Fault Scanner := do
  let s ← s.saveCandidate
  let (name, cursor) ← readAnchor s.cursor
  return { s with cursor := cursor, keyAllowed := false }.emit (token name)

def tag : Except Fault Scanner := do
  let s ← s.saveCandidate
  let (text, cursor) ← readTag s.inFlow s.cursor
  return { s with cursor := cursor, keyAllowed := false }.emit (.tag text)

def blockScalar (literal : Bool) : Except Fault Scanner := do
  let s ← s.dropCandidate
  let (text, cursor) ← readBlock literal s.column s.cursor
  return { s with cursor := cursor, keyAllowed := true }.emit (.scalar (String.ofList text) false)

def quotedScalar (single : Bool) : Except Fault Scanner := do
  let s ← s.saveCandidate
  let (text, cursor) ← readQuoted single s.cursor
  return { s with cursor := cursor, keyAllowed := false }.emit (.scalar (String.ofList text) false)

def plainScalar : Except Fault Scanner := do
  let s ← s.saveCandidate
  let read ← readPlain s.inFlow (s.column + 1).toNat s.cursor
  return { s with cursor := read.cursor, keyAllowed := read.endsLine }.emit
    (.scalar (String.ofList read.text) true)

/-- The characters that start no plain scalar, or only before certain others. -/
def isIndicator (c : Char) : Bool := c ∈ "-?:,[]\x7b\x7d#&*!|>'\"%@\x60".toList

/-- Whether a plain scalar starts with a character that has others after it. -/
def startsPlain (c : Char) (rest : List Char) : Bool :=
  !(isSpaceOrBreak c || isIndicator c)
    || (c = '-' && !headIs isSpaceOrTab rest)
    || (!s.inFlow && (c = '?' || c = ':') && !atGap rest)

/-- The token at the cursor. -/
def token (c : Char) (rest : List Char) : Except Fault Scanner :=
  let first := s.cursor.column = 0
  if first && c = '%' then s.directive
  else if first && c = '-' && atDocumentMark (c :: rest) then s.documentMark .documentStart
  else if first && c = '.' && atDocumentMark (c :: rest) then s.documentMark .documentEnd
  else if c = '[' then s.openFlow .flowSequenceStart
  else if c = '\x7b' then s.openFlow .flowMappingStart
  else if c = ']' then s.closeFlow .flowSequenceEnd
  else if c = '\x7d' then s.closeFlow .flowMappingEnd
  else if c = ',' then s.comma
  else if c = '-' && atGap rest then s.item
  else if c = '?' && (s.inFlow || atGap rest) then s.key
  else if c = ':' && (s.inFlow || atGap rest) then s.value
  else if c = '*' then s.anchor .alias
  else if c = '&' then s.anchor .anchor
  else if c = '!' then s.tag
  else if c = '|' && !s.inFlow then s.blockScalar true
  else if c = '>' && !s.inFlow then s.blockScalar false
  else if c = '\'' then s.quotedScalar true
  else if c = '"' then s.quotedScalar false
  else if s.startsPlain c rest then s.plainScalar
  else .error .start

/-- Reads tokens up to the end of the text. -/
def run : Nat → Scanner → Except Fault Scanner
  | 0, s => .ok s
  | fuel + 1, s => do
    let s ← (skipToToken s).dropStale
    let s := s.closeBlocks s.cursor.column
    match s.cursor.rest with
    | [] => s.leaveBlocks
    | c :: rest => run fuel (← s.token c rest)

end Scanner

/-- The characters that a document may contain. -/
def isAllowed (c : Char) : Bool :=
  c = '\t' || c = '\n' || c = '\r' || (' ' ≤ c && c ≤ '~') || c = '\u0085'
    || ('\u00a0' ≤ c && c ≤ '\ufffd') || 0x10000 ≤ c.toNat

/-- **The tokens of a text.** -/
def tokens (text : String) : Except Fault (List Token) := do
  let chars := text.toList
  if !chars.all isAllowed then throw .character
  let scanner ← Scanner.run (chars.length + 2) { cursor := .ofText chars }
  return scanner.tokens.toList

end Yaml
end Gradebook
