/-
# Patterns

A pattern describes texts: by characters and classes of them, by what stands around a place, and
by repetition, sequence and choice. Groups hold a pattern together and may have a name. Flags
change how the rest of a group is read, or all of it.

Only the shape of a pattern is kept here. Which texts it describes does not matter to whether it
is a pattern at all.
-/

namespace Gradebook

namespace Pattern

/-! ## Flags -/

inductive Flag where
  | ignoreCase
  | manyLines
  | dotMatchesBreak
  | swapGreed
  | unicode
  | carriageReturn
  /-- Blanks and comments do not count. -/
  | verbose
deriving DecidableEq

/-- The flag of a letter. -/
def Flag.ofChar? : Char → Option Flag
  | 'i' => some ignoreCase
  | 'm' => some manyLines
  | 's' => some dotMatchesBreak
  | 'U' => some swapGreed
  | 'u' => some unicode
  | 'R' => some carriageReturn
  | 'x' => some verbose
  | _ => none

/-- Flags that are set and flags that are cleared. -/
structure FlagChange where
  on : List Flag := []
  off : List Flag := []
deriving DecidableEq

/-- Whether a flag is set after a change. -/
def FlagChange.apply (change : FlagChange) (flag : Flag) (before : Bool) : Bool :=
  if flag ∈ change.on then true else if flag ∈ change.off then false else before

/-! ## Classes -/

/-- A character, which may be written as a byte. -/
structure Literal where
  char : Char
  /-- Whether it is written by two hexadecimal digits. -/
  isByte : Bool := false
deriving DecidableEq

/-- The operators between the parts of a class. -/
inductive ClassOperator where
  | intersection
  | difference
  | symmetricDifference
deriving DecidableEq

mutual

/-- What a class is a union of. -/
inductive ClassItem where
  | literal (value : Literal)
  | range (first last : Literal)
  /-- A class of ASCII by its name, such as `alpha`. -/
  | ascii (negated : Bool) (name : String)
  /-- One of the classes `\d`, `\s` and `\w`; negated if its letter is a capital. -/
  | shorthand (negated : Bool)
  | nested (negated : Bool) (content : ClassContent)

/-- What stands between the brackets of a class. -/
inductive ClassContent where
  | union (items : List ClassItem)
  | operation (operator : ClassOperator) (left right : ClassContent)

end

end Pattern

/-! ## Patterns -/

inductive Pattern where
  | literal (value : Pattern.Literal)
  | anyChar
  /-- The start or the end of a line or of the whole text. -/
  | edge
  /-- A place with a word on one side only, or one that is no such place. -/
  | wordEdge
  /-- One of the classes `\d`, `\s` and `\w`; negated if its letter is a capital. -/
  | shorthand (negated : Bool)
  | bracketed (negated : Bool) (content : Pattern.ClassContent)
  /-- A change of flags for what follows it in its group. -/
  | change (flags : Pattern.FlagChange)
  | repetition (body : Pattern)
  | group (name : Option String) (flags : Pattern.FlagChange) (body : Pattern)
  | sequence (items : List Pattern)
  | choice (branches : List Pattern)

namespace Pattern

/-! ## Depth -/

mutual

/-- How deep brackets, operators and unions are nested in an item. -/
def ClassItem.depth : ClassItem → Nat
  | .nested _ content => content.depth + 1
  | _ => 0

/-- How deep brackets, operators and unions are nested in a class. A union of one item is that
item. -/
def ClassContent.depth : ClassContent → Nat
  | .union [] => 0
  | .union [item] => item.depth
  | .union (first :: second :: others) =>
    max first.depth (max second.depth (itemsDepth others)) + 1
  | .operation _ left right => max left.depth right.depth + 1

def itemsDepth : List ClassItem → Nat
  | [] => 0
  | item :: rest => max item.depth (itemsDepth rest)

end

mutual

/-- How deep the parts of a pattern are nested. Nothing at all has no depth. -/
def depth : Pattern → Nat
  | bracketed _ content => content.depth + 1
  | repetition body => body.depth + 1
  | group _ _ body => body.depth + 1
  | sequence [] => 0
  | sequence (first :: others) => max first.depth (depths others) + 1
  | choice branches => depths branches + 1
  | _ => 0

def depths : List Pattern → Nat
  | [] => 0
  | item :: rest => max item.depth (depths rest)

end

/-! ## Names -/

mutual

/-- The names of groups, in the order of the text. -/
def names : Pattern → List String
  | group name _ body => name.toList ++ body.names
  | repetition body => body.names
  | sequence items => namesIn items
  | choice branches => namesIn branches
  | _ => []

def namesIn : List Pattern → List String
  | [] => []
  | item :: rest => item.names ++ namesIn rest

end

/-- Items one after the other. One item is no sequence. -/
def ofItems : List Pattern → Pattern
  | [item] => item
  | items => sequence items

/-- Branches to choose from. One branch is no choice. -/
def ofBranches : List Pattern → Pattern
  | [branch] => branch
  | branches => choice branches

end Pattern
end Gradebook
