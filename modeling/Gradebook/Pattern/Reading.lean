/-
# Reading patterns

    pattern  = sequence ("|" sequence)*
    sequence = (item ("?" | "*" | "+") "?"?)*
    item     = character | "." | "^" | "$" | escape | class | group
    group    = "(" (name | flags ":")? pattern ")"
    name     = "?" "P"? "<" characters ">"
    flags    = "?" letters ("-" letters)?

An item may be repeated more than once, and flags without a pattern are an item that cannot be
repeated. There are no counted repetitions, so a brace is no character.
-/

import Gradebook.Pattern.CharacterClass
import Gradebook.Text.Letters

namespace Gradebook
namespace Pattern

/-! ## The heads of groups -/

/-- Flags by their letters. Those after a hyphen are cleared; no flag is named twice, and a hyphen
is not the last letter. -/
def readFlags? (letters : List Char) : Option FlagChange := do
  let on ← (letters.takeWhile (· ≠ '-')).mapM Flag.ofChar?
  let off ← ((letters.dropWhile (· ≠ '-')).drop 1).mapM Flag.ofChar?
  if (on ++ off).Nodup && letters.getLast? ≠ some '-' then some ⟨on, off⟩ else none

/-- Whether a text can name a group. -/
def isGroupName : List Char → Bool
  | [] => false
  | c :: rest =>
    (c = '_' || Text.isAlphabetic c)
      && rest.all fun c => c ∈ ['_', '.', '[', ']'] || Text.isAlphanumeric c

/-- What stands after an opening parenthesis. -/
inductive Opening where
  | group (name : Option String) (flags : FlagChange)
  /-- Flags up to a closing parenthesis. -/
  | change (flags : FlagChange)

/-- The name of a group and its closing bracket. -/
def readName? (s : List Char) : Option (Opening × List Char) :=
  let name := s.takeWhile (· ≠ '>')
  match s.dropWhile (· ≠ '>') with
  | _ :: rest =>
    if isGroupName name then some (.group (some (String.ofList name)) {}, rest) else none
  | [] => none

/-- Flags and the colon or closing parenthesis after them. -/
def readChange? (s : List Char) : Option (Opening × List Char) := do
  let letters := s.takeWhile fun c => c ≠ ':' && c ≠ ')'
  let flags ← readFlags? letters
  match s.drop letters.length with
  | ':' :: rest => some (.group none flags, rest)
  | ')' :: rest => if letters.isEmpty then none else some (.change flags, rest)
  | _ => none

/-- The head of a group, after its opening parenthesis. What lies around a place cannot be
described by a pattern of its own. -/
def readOpening? (verbose : Bool) (s : List Char) : Option (Opening × List Char) :=
  match skipBlanks verbose s with
  | '?' :: '<' :: '=' :: _ => none
  | '?' :: '<' :: '!' :: _ => none
  | '?' :: 'P' :: '<' :: rest => readName? rest
  | '?' :: '<' :: rest => readName? rest
  | '?' :: rest => readChange? rest
  | rest => some (.group none {}, rest)

/-! ## Patterns -/

/-- The last item, repeated. -/
def repeatLast? : List Pattern → Option (List Pattern)
  | [] => none
  | change _ :: _ => none
  | item :: before => some (repetition item :: before)

/-- The text after a question mark, if there is one: an item may be repeated as little as can be. -/
def skipLazy : List Char → List Char
  | '?' :: rest => rest
  | rest => rest

/-- A single character or place. -/
def readItem? (verbose : Bool) : List Char → Option (Pattern × List Char)
  | [] => none
  | '\\' :: rest => readEscape? verbose rest
  | '.' :: rest => some (anyChar, rest)
  | '^' :: rest => some (edge, rest)
  | '$' :: rest => some (edge, rest)
  | '\x7b' :: _ => none
  | c :: rest => some (literal ⟨c, false⟩, rest)

mutual

/-- A pattern up to a closing parenthesis or the end. Every call takes one from `fuel`, and no more
calls are nested or follow one another than twice the characters of the text. -/
def readBranches? : Nat → Bool → List Char → Option (List Pattern × List Char)
  | 0, _, _ => none
  | fuel + 1, verbose, s => do
    let (items, verbose, rest) ← readSequence? fuel verbose [] s
    let branch := ofItems items.reverse
    match rest with
    | '|' :: rest =>
      let (others, rest) ← readBranches? fuel verbose rest
      return (branch :: others, rest)
    | rest => return ([branch], rest)

/-- The items of a sequence, the last one first, after those that have been read, and whether it
is verbose at its end. -/
def readSequence? : Nat → Bool → List Pattern → List Char →
    Option (List Pattern × Bool × List Char)
  | 0, _, _, _ => none
  | fuel + 1, verbose, items, s => do
    match skipBlanks verbose s with
    | [] => return (items, verbose, [])
    | '|' :: rest => return (items, verbose, '|' :: rest)
    | ')' :: rest => return (items, verbose, ')' :: rest)
    | '(' :: rest =>
      match ← readOpening? verbose rest with
      | (.change flags, rest) =>
        readSequence? fuel (flags.apply .verbose verbose) (change flags :: items) rest
      | (.group name flags, rest) =>
        match ← readBranches? fuel (flags.apply .verbose verbose) rest with
        | (branches, ')' :: rest) =>
          readSequence? fuel verbose (group name flags (ofBranches branches) :: items) rest
        | _ => none
    | '[' :: rest =>
      let (negated, content, rest) ← readClass? verbose (2 * rest.length + 2) rest
      readSequence? fuel verbose (bracketed negated content :: items) rest
    | c :: rest =>
      if c = '?' || c = '*' || c = '+' then
        readSequence? fuel verbose (← repeatLast? items) (skipLazy rest)
      else
        let (item, rest) ← readItem? verbose (c :: rest)
        readSequence? fuel verbose (item :: items) rest

end

/-- How deep the parts of a pattern may be nested. -/
def depthLimit : Nat := 250

/-- **Reads a pattern.** No two groups have the same name. -/
def read? (s : String) : Option Pattern := do
  let s := s.toList
  match ← readBranches? (2 * s.length + 2) false s with
  | (branches, []) =>
    let pattern := ofBranches branches
    if pattern.depth ≤ depthLimit && pattern.names.Nodup then some pattern else none
  | _ => none

end Pattern
end Gradebook
