/-
# Tokens

The indicators and scalars of a YAML text, and three kinds of token that no character stands
for: the starts of block collections and their ends, which follow from the indentation.
-/

namespace Gradebook
namespace Yaml

/-- The bytes of a tag. They need not be those of a text. -/
abbrev TagBytes := List UInt8

/-- A tag as it is written: a handle such as `!` or `!!` and a suffix. Without a handle the
suffix is the whole tag. -/
structure TagText where
  handle : String
  suffix : TagBytes
deriving DecidableEq

inductive Token where
  | version (major minor : Nat)
  | tagDirective (handle : String) (start : TagBytes)
  | documentStart
  | documentEnd
  | blockSequenceStart
  | blockMappingStart
  | blockEnd
  | flowSequenceStart
  | flowSequenceEnd
  | flowMappingStart
  | flowMappingEnd
  /-- The dash before an item of a block sequence. -/
  | item
  /-- The comma of a flow collection. -/
  | comma
  | key
  | value
  | alias (name : String)
  | anchor (name : String)
  | tag (text : TagText)
  | scalar (text : String) (plain : Bool)
deriving DecidableEq

end Yaml
end Gradebook
