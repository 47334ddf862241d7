/-
# Log filters

A log filter is a list of directives with commas between them; empty ones are passed over. A
directive is one of

- a level alone, or the name of a target,
- a target, a span in square brackets or both, with an equals sign and a level after them.

A level is a number up to five or a name in any letter case; no level at all stands for the
most detailed one. A span may have a field in braces, and after an equals sign a number or a
pattern for its value. Blanks at the ends of a directive are no part of it for telling its parts
from one another, but the texts of levels and fields are counted from the first blank, so that
blanks make most levels unreadable.
-/

import Gradebook.Decimal.Reading
import Gradebook.Decimal.Whole
import Gradebook.Pattern.Mode
import Gradebook.Text.Split
import Gradebook.Text.Utf8

namespace Gradebook
namespace LogFilter

/-- Whether a text is a level. -/
def isLevel (s : List Char) : Bool :=
  s.isEmpty || (Decimal.readBelow? 6 s).isSome
    || ["error", "warn", "info", "debug", "trace", "off"].contains
      (String.ofList (s.map Char.toLower))

/-- Whether a text is the value of a field. -/
def isFieldValue (s : String) : Bool := (Binary64.read? s).isSome || Pattern.isUsable s

/-- Whether a text is a field: a name, which may be empty, or a name, an equals sign and a value.
What follows a second equals sign does not count. -/
def isField (s : List Char) : Bool :=
  match Text.splitAll '=' s with
  | _ :: value :: _ => isFieldValue (String.ofList value)
  | _ => !s.isEmpty

/-- What a character of a directive belongs to. -/
inductive Part where
  | start
  /-- A level alone or the name of a target. -/
  | name
  | span
  /-- A field of a span, with the number of bytes before it. -/
  | field (first : Nat)
  | afterField
  | afterSpan
  /-- A level, with the number of bytes before it. -/
  | level (first : Nat)
deriving DecidableEq

/-- Whether a directive can start with a character. -/
def startsName (c : Char) : Bool := c = '-' || c = ':' || c = '_' || Text.isAlphanumeric c

/-- The part after a character, which has a number of bytes before it. `textOf` gives the text
between two places. -/
def Part.next? (textOf : Nat → Nat → Option (List Char)) (before : Nat) (c : Char) :
    Part → Option Part
  | start => if c = '[' then some span else if startsName c then some name else none
  | name =>
    if c = '=' then some (level (before + 1)) else if c = '[' then some span else some name
  | span =>
    if c = ']' then some afterSpan
    else if c = '\x7b' then some (field (before + 1))
    else some span
  | field first =>
    if c ≠ '\x7d' then some (field first)
    else if (textOf first before).any isField then some afterField
    else none
  | afterField => if c = ']' then some afterSpan else none
  | afterSpan => if c = '=' then some (level (before + 1)) else none
  | level first => some (level first)

/-- The part at the end of a directive. -/
def lastPart? (textOf : Nat → Nat → Option (List Char)) (before : Nat) (part : Part) :
    List Char → Option Part
  | [] => some part
  | c :: rest =>
    (part.next? textOf before c).bind fun next =>
      lastPart? textOf (before + c.utf8Size) next rest

/-- The text between two places among bytes, if they are places between characters. -/
def textBetween? (bytes : List UInt8) (first last : Nat) : Option (List Char) :=
  (Text.ofUtf8? ((bytes.take last).drop first)).map String.toList

/-- Whether a text is a directive. -/
def isDirective (s : List Char) : Bool :=
  let bytes := s.flatMap String.utf8EncodeChar
  match lastPart? (textBetween? bytes) 0 .start (Text.trimChars s) with
  | some .name | some .afterSpan => true
  | some (.level first) => (textBetween? bytes first bytes.length).any isLevel
  | _ => false

/-- **Whether a text is a log filter.** -/
def isValid (s : String) : Bool :=
  ((Text.splitAll ',' s.toList).filter (· ≠ [])).all isDirective

/-- What is wrong with a text that is no log filter. -/
def faultMessage (s : String) : String :=
  "invalid log level/filter '" ++ s ++ "': unable to build EnvFilter"

end LogFilter
end Gradebook
