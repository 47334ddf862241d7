/-
# Files of environment variables

A file sets a variable on each of its lines:

    line = "export"? name "=" value? comment?

A name has letters, digits, underscores and points of ASCII and starts with a letter or an
underscore. In a value quotes of both kinds keep blanks; between them a line may end and the
value goes on. Outside single quotes a backslash protects the character after it, and a dollar
sign with a name, or with any name in braces, stands for a variable. A comment starts with a
number sign at the start of a line or after a blank.

The reading ends at the first line that is no such line; what stands before it counts. Values
that are set from outside win over the file, and a first setting over later ones.
-/

import Gradebook.Environment
import Gradebook.Text.Blank
import Gradebook.Text.Letters

namespace Gradebook
namespace EnvironmentFile

/-! ## Lines

A line is put together from lines of the text as long as a quote is open. -/

/-- What the characters of a line up to some point have opened. -/
inductive LineState where
  | plain
  | blank
  | escape
  | single
  | singleEscape
  | double
  | doubleEscape
  | comment
deriving DecidableEq

namespace LineState

/-- The state after a character that follows no blank. -/
def opened (c : Char) : LineState :=
  if c = '\\' then escape else if c = '"' then double else if c = '\'' then single else plain

/-- The state after a character. Of several blanks in a row every other one counts. -/
def next (c : Char) : LineState → LineState
  | plain => if Text.isBlank c && c ≠ '\n' && c ≠ '\r' then blank else opened c
  | blank => if c = '#' then comment else opened c
  | escape => plain
  | single => if c = '\\' then singleEscape else if c = '\'' then plain else single
  | singleEscape => single
  | double => if c = '\\' then doubleEscape else if c = '"' then plain else double
  | doubleEscape => double
  | comment => comment

end LineState

/-- The characters of a line before its comment, and the state at their end. -/
def scanLine (state : LineState) : List Char → List Char × LineState
  | [] => ([], state)
  | c :: rest =>
    match state.next c with
    | .comment => ([], .comment)
    | next =>
      let (kept, last) := scanLine next rest
      (c :: kept, last)

/-- The lines of a text, each with its line feed. -/
def linesOf : List Char → List (List Char)
  | [] => []
  | c :: rest =>
    match c, linesOf rest with
    | '\n', lines => ['\n'] :: lines
    | c, [] => [[c]]
    | c, line :: lines => (c :: line) :: lines

/-- Whether a line is a comment and nothing else. -/
def isComment (line : List Char) : Bool := (line.dropWhile Text.isBlank).head? = some '#'

/-- The whole lines of a text. A text that ends within a line ends before it. -/
def wholeLines (before : List Char) (state : LineState) : List (List Char) → List (List Char)
  | [] => []
  | line :: rest =>
    if isComment (before ++ line) then wholeLines [] .plain rest
    else
      match scanLine state line with
      | (kept, .plain) | (kept, .comment) => (before ++ kept) :: wholeLines [] .plain rest
      | (_, state) => wholeLines (before ++ line) state rest

/-! ## Values -/

/-- A part of a value: a character, or a reference to a variable by its name. -/
inductive Piece where
  | char (c : Char)
  | reference (name : List Char)
deriving DecidableEq

/-- What the next character of a value belongs to. -/
inductive ValueState where
  | text
  | escape
  | single
  /-- A name after a dollar sign. -/
  | name (read : List Char)
  /-- A name in braces. -/
  | braced (read : List Char)
  | afterBlank
  | comment
deriving DecidableEq

/-- What has been read of a value. -/
structure Value where
  pieces : List Piece := []
  state : ValueState := .text
  /-- Whether a double quote is open. -/
  quoted : Bool := false

namespace Value

def push (v : Value) (piece : Piece) : Value := { v with pieces := v.pieces ++ [piece] }

def enter (v : Value) (state : ValueState) : Value := { v with state := state }

/-- A character outside of names, single quotes and escapes. -/
def readText (v : Value) (c : Char) : Value :=
  if c = '$' then v.enter (.name [])
  else if c = '\\' then v.enter .escape
  else if c = '"' then { v with quoted := !v.quoted }
  else if v.quoted then v.push (.char c)
  else if c = '\'' then v.enter .single
  else if c = ' ' || c = '\t' then v.enter .afterBlank
  else v.push (.char c)

/-- A character after a backslash. -/
def readEscape (v : Value) (c : Char) : Option Value :=
  if c = 'n' then some ((v.push (.char '\n')).enter .text)
  else if "\\'\"$ ".toList.contains c then some ((v.push (.char c)).enter .text)
  else none

/-- A character in a name or right after it. The one after it stands for itself, unless it
starts a name. -/
def readName (v : Value) (name : List Char) (c : Char) : Value :=
  if Text.isAlphanumeric c then v.enter (.name (name ++ [c]))
  else if c = '\x7b' && name.isEmpty then v.enter (.braced [])
  else
    let v := v.push (.reference name)
    if c = '$' then v.enter (.name []) else (v.push (.char c)).enter .text

/-- Reads a character. -/
def read (v : Value) (c : Char) : Option Value :=
  match v.state with
  | .text => some (v.readText c)
  | .escape => v.readEscape c
  | .single => some (if c = '\'' then v.enter .text else v.push (.char c))
  | .name name => some (v.readName name c)
  | .braced name =>
    some (if c = '\x7d' then (v.push (.reference name)).enter .text
      else v.enter (.braced (name ++ [c])))
  | .afterBlank =>
    if c = ' ' || c = '\t' then some v else if c = '#' then some (v.enter .comment) else none
  | .comment => some v

/-- The pieces of a value that is read to its end. -/
def finish? (v : Value) : Option (List Piece) :=
  match v.state with
  | .name name => if v.quoted then none else some (v.pieces ++ [.reference name])
  | .single | .braced _ => none
  | _ => if v.quoted then none else some v.pieces

/-- **The pieces of a value.** -/
def pieces? (s : List Char) : Option (List Piece) := (s.foldlM read {}).bind finish?

end Value

/-! ## Assignments -/

/-- A variable and the pieces of its value. -/
structure Assignment where
  name : String
  value : List Piece
deriving DecidableEq

namespace Assignment

def skipBlanks (s : List Char) : List Char := s.dropWhile Text.isBlank

def startsName (c : Char) : Bool := c.isAlpha || c = '_'

def isNameChar (c : Char) : Bool := c.isAlphanum || c = '_' || c = '.'

/-- A name and what follows it and the blanks after it. -/
def readName? (s : List Char) : Option (List Char × List Char) :=
  if s.head?.any startsName then
    some (s.takeWhile isNameChar, skipBlanks (s.dropWhile isNameChar))
  else none

/-- What follows an equals sign. -/
def afterEquals? : List Char → Option (List Char)
  | '=' :: rest => some rest
  | _ => none

/-- A name and what follows its equals sign. The word `export` in front of a name does not
count. -/
def readTarget? (s : List Char) : Option (List Char × List Char) := do
  let (name, rest) ← readName? s
  match afterEquals? rest with
  | some value => return (name, value)
  | none =>
    if name = "export".toList then
      let (name, rest) ← readName? rest
      return (name, ← afterEquals? rest)
    else none

/-- The assignment of a line without blanks at its ends. -/
def ofLine? (s : List Char) : Option Assignment := do
  let (name, rest) ← readTarget? s
  let value := skipBlanks rest
  if value.isEmpty || value.head? = some '#' then return ⟨String.ofList name, []⟩
  else return ⟨String.ofList name, ← Value.pieces? value⟩

/-- The names of the variables that an assignment sets and uses. -/
def names (a : Assignment) : List String :=
  a.name :: a.value.filterMap fun
    | .reference name => some (String.ofList name)
    | .char _ => none

/-- The value of an assignment with given values of variables. -/
def text (a : Assignment) (values : Environment) : String :=
  String.join (a.value.map fun
    | .reference name => (values (String.ofList name)).getD ""
    | .char c => c.toString)

end Assignment

/-- The assignments of lines up to the first that is none. -/
def assignments : List (List Char) → List Assignment
  | [] => []
  | line :: rest =>
    let line := Text.trimChars line
    if line.isEmpty || line.head? = some '#' then assignments rest
    else
      match Assignment.ofLine? line with
      | some a => a :: assignments rest
      | none => []

/-- **Reads a file.** A mark for the order of bytes at its start does not count. -/
def read (s : String) : List Assignment :=
  let s := match s.toList with
    | '\ufeff' :: rest => rest
    | s => s
  assignments (wholeLines [] .plain (linesOf s))

/-- **The values of variables after assignments.** A variable that has a value keeps it. -/
def extend (values : Environment) : List Assignment → Environment
  | [] => values
  | a :: rest => extend (values.provide a.name (a.text values)) rest

end EnvironmentFile
end Gradebook
