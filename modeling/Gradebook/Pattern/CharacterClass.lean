/-
# Reading classes of characters

A class stands in brackets: characters, ranges, names such as `[:alpha:]` and classes in brackets
of their own. A caret at its head negates it. Hyphens after that are characters, and so is a
closing bracket that stands first. Two ampersands, hyphens or tildes are an operator between
what stands before them and what stands after them.
-/

import Gradebook.Pattern.Escape

namespace Gradebook
namespace Pattern

/-- The names of classes of ASCII. -/
def asciiNames : List String :=
  ["alnum", "alpha", "ascii", "blank", "cntrl", "digit", "graph", "lower", "print", "punct",
    "space", "upper", "word", "xdigit"]

/-- Whether there is a caret at the head of a text, and what follows it. -/
def readCaret : List Char → Bool × List Char
  | '^' :: rest => (true, rest)
  | rest => (false, rest)

/-- A class of ASCII by its name, after the opening bracket. -/
def readAscii? : List Char → Option (ClassItem × List Char)
  | ':' :: rest =>
    let (negated, rest) := readCaret rest
    let name := String.ofList (rest.takeWhile (· ≠ ':'))
    match rest.dropWhile (· ≠ ':') with
    | ':' :: ']' :: rest => if name ∈ asciiNames then some (.ascii negated name, rest) else none
    | _ => none
  | _ => none

/-- A character or an escape in a class. -/
def readMember? (verbose : Bool) : List Char → Option (ClassItem × List Char)
  | [] => none
  | '\\' :: rest =>
    match readEscape? verbose rest with
    | some (literal value, rest) => some (.literal value, rest)
    | some (shorthand negated, rest) => some (.shorthand negated, rest)
    | _ => none
  | c :: rest => some (.literal ⟨c, false⟩, rest)

/-- A range, from its two ends. -/
def range? : ClassItem → ClassItem → Option ClassItem
  | .literal first, .literal last =>
    if first.char ≤ last.char then some (.range first last) else none
  | _, _ => none

/-- A character, an escape or a range. A hyphen makes no range before another hyphen or a closing
bracket. -/
def readMembers? (verbose : Bool) (s : List Char) : Option (ClassItem × List Char) := do
  let (first, rest) ← readMember? verbose s
  match skipBlanks verbose rest with
  | '-' :: after =>
    if deciding? verbose after ∈ [some ']', some '-'] then return (first, '-' :: after)
    else
      let (last, rest) ← readMember? verbose (skipBlanks verbose after)
      return (← range? first last, rest)
  | rest => return (first, rest)

/-- An operator at the head of a text. -/
def operator? : List Char → Option (ClassOperator × List Char)
  | '&' :: '&' :: rest => some (.intersection, rest)
  | '-' :: '-' :: rest => some (.difference, rest)
  | '~' :: '~' :: rest => some (.symmetricDifference, rest)
  | _ => none

/-- What has been read of a class. -/
structure OpenClass where
  /-- What stands before the last operator. -/
  left : Option (ClassContent × ClassOperator) := none
  /-- The items after it, the last one first. -/
  items : List ClassItem := []

namespace OpenClass

def push (c : OpenClass) (item : ClassItem) : OpenClass := { c with items := item :: c.items }

/-- All that has been read. -/
def content (c : OpenClass) : ClassContent :=
  let items := ClassContent.union c.items.reverse
  match c.left with
  | none => items
  | some (left, operator) => .operation operator left items

/-- Puts all that has been read before an operator. -/
def operate (c : OpenClass) (operator : ClassOperator) : OpenClass :=
  { left := some (c.content, operator) }

end OpenClass

/-- Hyphens and a closing bracket at the head of a class. -/
def readHead (verbose : Bool) (c : OpenClass) (s : List Char) : OpenClass × List Char :=
  match _ : skipBlanks verbose s with
  | '-' :: rest => readHead verbose (c.push (.literal ⟨'-', false⟩)) rest
  | ']' :: rest => if c.items.isEmpty then (c.push (.literal ⟨']', false⟩), rest) else (c, s)
  | _ => (c, s)
termination_by s.length
decreasing_by exact length_lt_of_skipBlanks ‹_›

mutual

/-- A class after its opening bracket. Every call takes one from `fuel`, and no more calls are
nested or follow one another than twice the characters of the text. -/
def readClass? (verbose : Bool) : Nat → List Char → Option (Bool × ClassContent × List Char)
  | 0, _ => none
  | fuel + 1, s => do
    let (negated, s) := readCaret (skipBlanks verbose s)
    let (head, s) := readHead verbose {} s
    let (content, rest) ← readContent? verbose fuel head s
    return (negated, content, rest)

/-- What stands in a class up to its closing bracket, after what has been read of it. -/
def readContent? (verbose : Bool) :
    Nat → OpenClass → List Char → Option (ClassContent × List Char)
  | 0, _, _ => none
  | fuel + 1, c, s => do
    match skipBlanks verbose s with
    | [] => none
    | ']' :: rest => return (c.content, rest)
    | '[' :: rest =>
      match readAscii? rest with
      | some (item, rest) => readContent? verbose fuel (c.push item) rest
      | none =>
        let (negated, content, rest) ← readClass? verbose fuel rest
        readContent? verbose fuel (c.push (.nested negated content)) rest
    | s =>
      match operator? s with
      | some (operator, rest) => readContent? verbose fuel (c.operate operator) rest
      | none =>
        let (item, rest) ← readMembers? verbose s
        readContent? verbose fuel (c.push item) rest

end

end Pattern
end Gradebook
