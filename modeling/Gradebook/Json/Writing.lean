/-
# Writing JSON

Documents are written either on one line without blanks, or with every item and member on a
line of its own, two spaces deeper than what holds it. A broken part is written as null.
-/

import Gradebook.Decimal.Style
import Gradebook.Json.Basic

namespace Gradebook
namespace Json

/-- A character inside a string. -/
def escape (c : Char) : String :=
  if c = '"' then "\\\""
  else if c = '\\' then "\\\\"
  else if c = '\x08' then "\\b"
  else if c = '\x0c' then "\\f"
  else if c = '\n' then "\\n"
  else if c = '\r' then "\\r"
  else if c = '\t' then "\\t"
  else if c.toNat < 0x20 then
    let digits := Nat.toDigits 16 c.toNat
    "\\u" ++ String.ofList (List.replicate (4 - digits.length) '0' ++ digits)
  else c.toString

def stringText (s : String) : String := "\"" ++ String.join (s.toList.map escape) ++ "\""

/-- What is written between the parts of an array or object. -/
structure Layout where
  /-- What starts a line at a depth. -/
  line : Nat → String
  colon : String

def Layout.compact : Layout := ⟨fun _ => "", ":"⟩

def Layout.pretty : Layout := ⟨fun depth => "\n" ++ "".pushn ' ' (2 * depth), ": "⟩

/-- Parts between brackets; no line is started where there are none. -/
def enclosed (layout : Layout) (depth : Nat) (first last : String) (parts : List String) :
    String :=
  if parts.isEmpty then first ++ last
  else
    first ++ layout.line (depth + 1) ++ ("," ++ layout.line (depth + 1)).intercalate parts
      ++ layout.line depth ++ last

mutual

def textAt (layout : Layout) (depth : Nat) : Json → String
  | null => "null"
  | bool true => "true"
  | bool false => "false"
  | integer value => toString value
  | float value => if value.isFinite then value.text .compact else "null"
  | string value => stringText value
  | unpaired => "null"
  | array items _ => enclosed layout depth "[" "]" (itemTexts layout (depth + 1) items)
  | object members _ =>
    enclosed layout depth "\x7b" "\x7d" (memberTexts layout (depth + 1) members)
  | broken => "null"

def itemTexts (layout : Layout) (depth : Nat) : List Json → List String
  | [] => []
  | item :: rest => textAt layout depth item :: itemTexts layout depth rest

def memberTexts (layout : Layout) (depth : Nat) : List (Option String × Json) → List String
  | [] => []
  | (name, value) :: rest =>
    (stringText (name.getD "") ++ layout.colon ++ textAt layout depth value)
      :: memberTexts layout depth rest

end

/-- **A document on one line.** -/
def compact (j : Json) : String := textAt .compact 0 j

/-- **A document on indented lines.** -/
def pretty (j : Json) : String := textAt .pretty 0 j

end Json
end Gradebook
