/-
# Tags, anchors and directives

The tokens whose form is that of an identifier: `!handle!suffix`, `&anchor`, `*alias`, and the
lines that start with a percent sign.
-/

import Gradebook.Text.Hexadecimal
import Gradebook.Yaml.Cursor
import Gradebook.Yaml.Fault
import Gradebook.Yaml.Token

namespace Gradebook
namespace Yaml

/-! ## Anchors -/

/-- The characters, besides a gap, that may follow an anchor. -/
def endsAnchor (c : Char) : Bool := c ∈ "?:,]\x7d%@\x60".toList

/-- The name of an anchor or alias, with the cursor at its indicator. -/
def readAnchor (c : Cursor) : Except Fault (String × Cursor) :=
  let name := (c.rest.drop 1).takeWhile isWordChar
  let next := c.advance (1 + name.length)
  if name.isEmpty || !(atGap next.rest || headIs endsAnchor next.rest) then .error .anchorName
  else .ok (String.ofList name, next)

/-! ## Tags -/

/-- The characters of a tag besides letters and digits. -/
def isTagChar (verbatim : Bool) (c : Char) : Bool :=
  isWordChar c || c ∈ ";/?:@&=+$.%!~*'()".toList || (verbatim && c ∈ ",[]".toList)

/-- The number of bytes of a character, told by the first of them. -/
def octetCount? (octet : UInt8) : Option Nat :=
  if octet < 0x80 then some 1
  else if 0xC0 ≤ octet && octet < 0xE0 then some 2
  else if 0xE0 ≤ octet && octet < 0xF0 then some 3
  else if 0xF0 ≤ octet && octet < 0xF8 then some 4
  else none

/-- A byte written as a percent sign and two digits. -/
def readOctet : List Char → Option (UInt8 × List Char)
  | '%' :: rest => (Text.takeHex? 2 rest).map fun (value, rest) => (UInt8.ofNat value, rest)
  | _ => none

theorem length_lt_of_readOctet {s rest : List Char} {octet : UInt8}
    (read : readOctet s = some (octet, rest)) : rest.length < s.length := by
  unfold readOctet at read
  split at read
  · obtain ⟨⟨_, _⟩, taken, pair⟩ := Option.map_eq_some_iff.1 read
    cases pair
    exact Nat.lt_succ_of_le (Text.length_le_of_takeHex? taken)
  · cases read

/-- The bytes of a character after the first. -/
def readTrailing : Nat → List Char → Option (TagBytes × List Char)
  | 0, s => some ([], s)
  | count + 1, s => do
    let (octet, s) ← readOctet s
    if octet < 0x80 || 0xC0 ≤ octet then none
    else
      let (others, s) ← readTrailing count s
      return (octet :: others, s)

theorem length_le_of_readTrailing {count : Nat} {s rest : List Char} {octets : TagBytes}
    (read : readTrailing count s = some (octets, rest)) : rest.length ≤ s.length := by
  induction count generalizing s rest octets with
  | zero => cases read; exact Nat.le_refl _
  | succ count ih =>
    obtain ⟨⟨octet, after⟩, head, read⟩ := Option.bind_eq_some_iff.1 read
    dsimp only at read
    split at read
    · cases read
    · obtain ⟨⟨others, last⟩, tail, pair⟩ := Option.bind_eq_some_iff.1 read
      cases pair
      exact Nat.le_trans (ih tail) (Nat.le_of_lt (length_lt_of_readOctet head))

/-- The bytes that escapes write for one character. The first tells how many follow, and those
are in the range of such bytes; whether they are a character does not matter. -/
def readEscapedBytes (s : List Char) : Option (TagBytes × List Char) := do
  let (octet, s) ← readOctet s
  let count ← octetCount? octet
  let (others, s) ← readTrailing (count - 1) s
  return (octet :: others, s)

theorem length_lt_of_readEscapedBytes {s rest : List Char} {bytes : TagBytes}
    (read : readEscapedBytes s = some (bytes, rest)) : rest.length < s.length := by
  obtain ⟨⟨octet, after⟩, head, read⟩ := Option.bind_eq_some_iff.1 read
  obtain ⟨count, -, read⟩ := Option.bind_eq_some_iff.1 read
  obtain ⟨⟨others, last⟩, tail, pair⟩ := Option.bind_eq_some_iff.1 read
  cases pair
  exact Nat.lt_of_le_of_lt (length_le_of_readTrailing tail) (length_lt_of_readOctet head)

/-- Replaces the escapes in the characters of a tag. -/
def unescapeTag : List Char → Except Fault TagBytes
  | [] => .ok []
  | c :: rest =>
    if c = '%' then
      match _ : readEscapedBytes (c :: rest) with
      | some (bytes, rest) => (unescapeTag rest).map (bytes ++ ·)
      | none => .error .tagText
    else (unescapeTag rest).map (String.utf8EncodeChar c ++ ·)
termination_by s => s.length
decreasing_by
  · exact length_lt_of_readEscapedBytes ‹_›
  · exact Nat.lt_succ_self _

/-- The bytes of a tag up to the first zero, which ends it. -/
def untilZero (bytes : TagBytes) : TagBytes := bytes.takeWhile (· ≠ 0)

/-- The bytes of a tag at the cursor; none if it has no characters. -/
def readTagChars (verbatim : Bool) (c : Cursor) : Except Fault (Option TagBytes × Cursor) := do
  let raw := c.rest.takeWhile (isTagChar verbatim)
  let bytes ← unescapeTag raw
  return (if raw.isEmpty then none else some bytes, c.advance raw.length)

/-- The handle at the cursor: an exclamation mark, a word, and perhaps another mark. -/
def handleAt (s : List Char) : List Char :=
  let word := (s.drop 1).takeWhile isWordChar
  let rest := s.drop (1 + word.length)
  '!' :: word ++ (if headIs (· = '!') rest then ['!'] else [])

/-- Whether a handle has both its exclamation marks. -/
def isFullHandle (handle : List Char) : Bool := 1 < handle.length && handle.getLast? = some '!'

/-- The exclamation mark of tags. -/
def markByte : TagBytes := String.utf8EncodeChar '!'

/-- What has to follow a tag. -/
def endsTag (inFlow : Bool) (c : Cursor) : Bool :=
  (inFlow && headIs (· = ',') c.rest) || atGap c.rest

/-- **Reads a tag,** with the cursor at its exclamation mark. The mark alone is a whole tag. -/
def readTag (inFlow : Bool) (c : Cursor) : Except Fault (TagText × Cursor) := do
  let (tag, next) ←
    if headIs (· = '<') (c.rest.drop 1) then do
      let (some bytes, next) ← readTagChars true (c.advance 2) | throw .tagText
      if !headIs (· = '>') next.rest then throw .tagText
      pure (TagText.mk "" (untilZero bytes), next.advance 1)
    else do
      let handle := handleAt c.rest
      let (bytes?, next) ← readTagChars false (c.advance handle.length)
      if isFullHandle handle then do
        let some bytes := bytes? | throw .tagText
        pure (TagText.mk (String.ofList handle) (untilZero bytes), next)
      else do
        let word := (handle.drop 1).flatMap String.utf8EncodeChar
        let suffix := untilZero (word ++ bytes?.getD [])
        let tag : TagText := if suffix.isEmpty then ⟨"", markByte⟩ else ⟨"!", suffix⟩
        pure (tag, next)
  if endsTag inFlow next then return (tag, next) else throw .tagText

/-! ## Directives -/

/-- A number of at most nine digits. -/
def readVersionNumber (c : Cursor) : Except Fault (Nat × Cursor) :=
  let digits := c.rest.takeWhile Char.isDigit
  if digits.isEmpty || 9 < digits.length then .error .directive
  else .ok (((String.ofList digits).toNat?).getD 0, c.advance digits.length)

def readVersion (c : Cursor) : Except Fault (Token × Cursor) := do
  let (major, c) ← readVersionNumber c
  if !headIs (· = '.') c.rest then throw .directive
  let (minor, c) ← readVersionNumber (c.advance 1)
  return (.version major minor, c)

def readTagDirective (c : Cursor) : Except Fault (Token × Cursor) := do
  if !headIs (· = '!') c.rest then throw .directive
  let handle := handleAt c.rest
  if !(isFullHandle handle || handle = ['!']) then throw .directive
  let c := c.advance handle.length
  if !headIs isSpaceOrTab c.rest then throw .directive
  let (some start, c) ← readTagChars true (c.skipWhile isSpaceOrTab) | throw .directive
  if !atGap c.rest then throw .directive
  return (.tagDirective (String.ofList handle) (untilZero start), c)

/-- **Reads a directive and the rest of its line,** with the cursor at the percent sign. -/
def readDirective (c : Cursor) : Except Fault (Token × Cursor) := do
  let name := (c.rest.drop 1).takeWhile isWordChar
  let c := c.advance (1 + name.length)
  if name.isEmpty || !atGap c.rest then throw .directive
  let c := c.skipWhile isSpaceOrTab
  let (token, c) ←
    if name = "YAML".toList then readVersion c
    else if name = "TAG".toList then readTagDirective c
    else throw .directive
  let c := (c.skipWhile isSpaceOrTab).skipComment
  if atLineEnd c.rest then return (token, c.skipBreak) else throw .directive

end Yaml
end Gradebook
