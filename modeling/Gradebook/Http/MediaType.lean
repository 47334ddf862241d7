/-
# Media types

A media type is a type, a slash and a subtype. Parameters may follow, each after a semicolon
and with a value that is a token or stands in quotes. A quoted value has one character at
least, so a quote right after the opening one belongs to the value; all its characters are
printed ones of ASCII.
-/

import Gradebook.Text.Split

namespace Gradebook
namespace Http

/-- Whether a character can be part of a token. -/
def isTokenChar (c : Char) : Bool :=
  c.isAlphanum || "!#$%&'*+-.^_\x60|~".toList.contains c

/-- Whether a character can stand between quotes. -/
def isQuotable (c : Char) : Bool := ' ' ≤ c && c ≤ '~'

/-- What a character of the parameters belongs to. -/
inductive ParameterPart where
  | beforeName
  | name
  | beforeValue
  | value
  | quotedStart
  | quoted
  | afterQuoted
deriving DecidableEq

namespace ParameterPart

/-- The part after a character. -/
def next? (c : Char) : ParameterPart → Option ParameterPart
  | beforeName => if c = ' ' then some beforeName else if isTokenChar c then some name else none
  | name => if c = '=' then some beforeValue else if isTokenChar c then some name else none
  | beforeValue =>
    if c = '"' then some quotedStart else if isTokenChar c then some value else none
  | value => if c = ';' then some beforeName else if isTokenChar c then some value else none
  | quotedStart => if isQuotable c then some quoted else none
  | quoted =>
    if c = '"' then some afterQuoted else if isQuotable c then some quoted else none
  | afterQuoted =>
    if c = ';' then some beforeName else if c = ' ' then some afterQuoted else none

/-- Whether the parameters can end in a part. -/
def isLast : ParameterPart → Bool
  | beforeName | beforeValue | value | afterQuoted => true
  | _ => false

end ParameterPart

/-- Whether a text, which follows a semicolon, is a list of parameters. -/
def areParameters (s : List Char) : Bool :=
  (s.foldlM (fun part c => ParameterPart.next? c part) .beforeName).any (·.isLast)

structure MediaType where
  type : String
  subtype : String
  /-- What follows the last plus sign of the subtype. -/
  suffix : Option String
deriving DecidableEq

namespace MediaType

/-- A subtype in lower case, and its suffix. -/
def splitSuffix (s : List Char) : String × Option String :=
  match Text.splitLast? '+' s with
  | some (subtype, suffix) =>
    if subtype.isEmpty then (String.ofList s, none)
    else (String.ofList subtype, some (String.ofList suffix))
  | none => (String.ofList s, none)

/-- **Reads a media type.** The letter case of its names does not matter. -/
def read? (s : String) : Option MediaType :=
  match (s.toList.map Char.toLower).span isTokenChar with
  | (type, '/' :: rest) =>
    let (names, rest) := rest.span isTokenChar
    let (subtype, suffix) := splitSuffix names
    let whole := match rest with
      | [] => true
      | ';' :: parameters => !names.isEmpty && areParameters parameters
      | _ => false
    if !type.isEmpty && whole then some ⟨String.ofList type, subtype, suffix⟩ else none
  | _ => none

/-- Whether a document of the type is a JSON document. -/
def isJson (t : MediaType) : Bool :=
  t.type = "application" && (t.subtype = "json" || t.suffix = some "json")

end MediaType
end Http
end Gradebook
