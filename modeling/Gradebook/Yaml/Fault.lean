/-
# Why a text is not a YAML document
-/

namespace Gradebook
namespace Yaml

/-- The causes of failure, from characters up to whole documents. -/
inductive Fault where
  /-- A character that no document may contain. -/
  | character
  /-- A character that starts nothing. -/
  | start
  /-- A tab where the depth of a line is counted in spaces. -/
  | tab
  /-- A key whose colon is not found on its line. -/
  | keyWithoutColon
  /-- A block indicator where none may stand. -/
  | indicator
  | directive
  | anchorName
  | tagText
  | escape
  | blockHeader
  | unclosedQuote
  | colonInFlow
  /-- An item or key that does not fit into the collection around it. -/
  | misplaced
  | undefinedTagHandle
  | undefinedAnchor
  | secondDocument
  | tooDeep
  | tooManyAliases
  | duplicateKey
  | value
deriving DecidableEq

def Fault.message : Fault → String
  | character => "a control character"
  | start => "a character that cannot start any token"
  | tab => "a tab in the indentation"
  | keyWithoutColon => "a key without a colon"
  | indicator => "an indicator that is not allowed here"
  | directive => "a malformed directive"
  | anchorName => "a malformed anchor or alias"
  | tagText => "a malformed tag"
  | escape => "an unknown escape"
  | blockHeader => "a malformed block scalar header"
  | unclosedQuote => "a quoted scalar without its end"
  | colonInFlow => "an unexpected colon"
  | misplaced => "an item or key out of place"
  | undefinedTagHandle => "an undefined tag handle"
  | undefinedAnchor => "an unknown anchor"
  | secondDocument => "more than one document"
  | tooDeep => "collections nested too deeply"
  | tooManyAliases => "too many aliases"
  | duplicateKey => "a key that occurs twice"
  | value => "a value that does not fit its tag"

end Yaml
end Gradebook
