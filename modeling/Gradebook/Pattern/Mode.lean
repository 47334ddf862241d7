/-
# Patterns that can be used

Texts are compared with patterns byte by byte and without tables of properties of characters.
So a pattern may be well formed and yet of no use: it may depend on the letter case of any
character or on what a word, a digit or a blank is, or it may stand for bytes that are no text.
Which of these a part does depends on the flags in force where it stands.
-/

import Gradebook.Pattern.Reading

namespace Gradebook
namespace Pattern

/-- The flags in force at a place. -/
structure Mode where
  /-- Whether a character is any of Unicode, not only a byte. -/
  unicode : Bool := true
  ignoreCase : Bool := false
deriving DecidableEq

/-- The mode after a change of flags. -/
def Mode.apply (m : Mode) (flags : FlagChange) : Mode where
  unicode := flags.apply .unicode m.unicode
  ignoreCase := flags.apply .ignoreCase m.ignoreCase

/-- Whether a character can be used. The letter case of bytes is known, and a byte has to be a
character. -/
def Literal.isUsable (m : Mode) (l : Literal) : Bool :=
  if m.unicode then !m.ignoreCase else !l.isByte || l.char.toNat < 0x80

/-- Whether a character can be used in a class. A class of bytes has no other characters. -/
def Literal.isUsableInClass (m : Mode) (l : Literal) : Bool :=
  if m.unicode then !m.ignoreCase else l.char.toNat < 0x80

/-- Whether one of the classes `\d`, `\s` and `\w` can be used. -/
def isUsableShorthand (m : Mode) (negated : Bool) : Bool := !m.unicode && !negated

/-- Whether a class can be negated. -/
def Mode.negates (m : Mode) (negated : Bool) : Bool := m.unicode || !negated

mutual

def ClassItem.isUsable (m : Mode) : ClassItem → Bool
  | .literal value => value.isUsableInClass m
  | .range first last => first.isUsableInClass m && last.isUsableInClass m
  | .ascii negated _ => m.negates negated && !(m.unicode && m.ignoreCase)
  | .shorthand negated => isUsableShorthand m negated
  | .nested negated content => m.negates negated && content.isUsable m

def ClassContent.isUsable (m : Mode) : ClassContent → Bool
  | .union items => areUsable m items
  | .operation _ left right => left.isUsable m && right.isUsable m

def areUsable (m : Mode) : List ClassItem → Bool
  | [] => true
  | item :: rest => item.isUsable m && areUsable m rest

end

mutual

/-- The mode after a pattern; none if the pattern cannot be used. -/
def after? (m : Mode) : Pattern → Option Mode
  | literal value => if value.isUsable m then some m else none
  | anyChar => if m.unicode then some m else none
  | edge => some m
  | wordEdge => if m.unicode then none else some m
  | shorthand negated => if isUsableShorthand m negated then some m else none
  | bracketed negated content =>
    if m.negates negated && content.isUsable m then some m else none
  | change flags => some (m.apply flags)
  | repetition body => after? m body
  | group _ flags body => (after? (m.apply flags) body).map fun _ => m
  | sequence items => afterAll? m items
  | choice branches => afterAll? m branches

/-- The mode after patterns that stand one after the other in the text. -/
def afterAll? (m : Mode) : List Pattern → Option Mode
  | [] => some m
  | item :: rest => do afterAll? (← after? m item) rest

end

/-- **Whether a text is a pattern that can be used.** -/
def isUsable (s : String) : Bool := (read? s).any fun pattern => (after? {} pattern).isSome

end Pattern
end Gradebook
