/-
# From tokens to nodes

A document is a tree of scalars, sequences and mappings, in which an alias stands for a node
that was named by an anchor. Several anchors may have the same name. An alias refers to a
*number* that its name has at that point: a name gets the count of the names known so far each
time it is used for an anchor. The node that a number stands for is the one that got it last,
which may come after the alias.
-/

import Gradebook.Yaml.Scan

namespace Gradebook
namespace Yaml

inductive Node where
  | scalar (tag : Option TagBytes) (text : String) (plain : Bool)
  | sequence (tag : Option TagBytes) (items : List Node)
  | mapping (tag : Option TagBytes) (pairs : List (Node × Node))
  | alias (number : Nat)
deriving Inhabited

/-- The scalar that stands for what is missing. -/
def Node.missing : Node := .scalar none "" true

/-- What is known while nodes are put together. -/
structure Composer where
  tokens : List Token
  /-- What tag handles stand for. -/
  handles : List (String × TagBytes) := []
  /-- Scalars and aliases count once, collections twice. -/
  events : Nat := 0
  /-- The names of anchors with their numbers. -/
  names : List (String × Nat) := []
  /-- The serial number of the node that got a number last. -/
  starts : List (Nat × Nat) := []
  /-- The nodes with anchors by serial number. -/
  anchored : List (Nat × Node) := []

/-- Takes tokens and puts nodes together. -/
abbrev Compose := StateT Composer (Except Fault)

namespace Compose

def peek : Compose (Option Token) := return (← get).tokens.head?

def next : Compose Unit := modify fun c => { c with tokens := c.tokens.tail }

/-- Counts an event and gives its serial number. -/
def event : Compose Nat := do
  let c ← get
  set { c with events := c.events + 1 }
  return c.events

/-- A missing node. -/
def missing : Compose Node := do
  let _ ← event
  return .missing

/-- Gives the next number to the name of an anchor. -/
def define (anchor : Option String) (serial : Nat) : Compose Unit :=
  match anchor with
  | none => return
  | some name => modify fun c =>
    let number := c.names.length
    { c with
      names := (name, number) :: c.names.filter fun known => known.1 ≠ name
      starts := (number, serial) :: c.starts }

/-- Keeps a node that has an anchor. -/
def keep (anchor : Option String) (serial : Nat) (node : Node) : Compose Node := do
  if anchor.isSome then modify fun c => { c with anchored := (serial, node) :: c.anchored }
  return node

/-- The tag that a text stands for. -/
def fullTag (text : Option TagText) : Compose (Option TagBytes) := do
  match text with
  | none => return none
  | some ⟨handle, suffix⟩ =>
    if handle = "" then return some suffix
    else
      match (← get).handles.lookup handle with
      | some start => return some (start ++ suffix)
      | none => throw .undefinedTagHandle

/-- An anchor and a tag, each of them optional, in either order. -/
def properties : Compose (Option String × Option TagText) := do
  match ← peek with
  | some (.anchor name) =>
    next
    match ← peek with
    | some (.tag text) => next; return (some name, some text)
    | _ => return (some name, none)
  | some (.tag text) =>
    next
    match ← peek with
    | some (.anchor name) => next; return (some name, some text)
    | _ => return (none, some text)
  | _ => return (none, none)

/-- Whether a value may follow a colon or dash, given the tokens that end it. -/
def isValue (ends : List Token) (token : Option Token) : Bool :=
  match token with
  | some token => token ∉ ends
  | none => true

/-- The comma before an item of a flow collection, unless it is the first one. -/
def separator (first : Bool) : Compose Unit := do
  if first then return
  if (← peek) = some .comma then next else throw .misplaced

mutual

/-- A node. Block collections may only stand in blocks, and only as the key or value of a block
mapping may a sequence have no indentation of its own. Every call takes one from `fuel`. -/
def node (block indentless : Bool) : Nat → Compose Node
  | 0 => throw .misplaced
  | fuel + 1 => do
    if let some (.alias name) := (← peek) then
      next
      let _ ← event
      match (← get).names.lookup name with
      | some number => return .alias number
      | none => throw .undefinedAnchor
    let (anchor, text) ← properties
    let tag ← fullTag text
    let start : Compose Nat := do
      let serial ← event
      define anchor serial
      return serial
    let finish (serial : Nat) (node : Node) : Compose Node := do
      let _ ← event
      keep anchor serial node
    match ← peek with
    | some (.scalar text plain) =>
      next
      let serial ← start
      keep anchor serial (.scalar tag text plain)
    | some .flowSequenceStart =>
      next
      let serial ← start
      finish serial (.sequence tag (← flowItems true fuel))
    | some .flowMappingStart =>
      next
      let serial ← start
      finish serial (.mapping tag (← flowPairs true fuel))
    | other =>
      if indentless && other = some .item then
        let serial ← start
        finish serial (.sequence tag (← looseItems fuel))
      else if block && other = some .blockSequenceStart then
        next
        let serial ← start
        finish serial (.sequence tag (← blockItems fuel))
      else if block && other = some .blockMappingStart then
        next
        let serial ← start
        finish serial (.mapping tag (← blockPairs fuel))
      else if anchor.isSome || tag.isSome then
        let serial ← start
        keep anchor serial (.scalar tag "" true)
      else throw .misplaced

/-- A node, or a missing one before any of the given tokens. -/
def nodeBefore (block indentless : Bool) (ends : List Token) : Nat → Compose Node
  | 0 => throw .misplaced
  | fuel + 1 => do
    if isValue ends (← peek) then node block indentless fuel else missing

/-- The items of a block sequence up to its end. -/
def blockItems : Nat → Compose (List Node)
  | 0 => throw .misplaced
  | fuel + 1 => do
    match ← peek with
    | some .item =>
      next
      let first ← nodeBefore true false [.item, .blockEnd] fuel
      return first :: (← blockItems fuel)
    | some .blockEnd => next; return []
    | _ => throw .misplaced

/-- The items of a sequence without an indentation of its own. -/
def looseItems : Nat → Compose (List Node)
  | 0 => throw .misplaced
  | fuel + 1 => do
    match ← peek with
    | some .item =>
      next
      let first ← nodeBefore true false [.item, .key, .value, .blockEnd] fuel
      return first :: (← looseItems fuel)
    | _ => return []

/-- The pairs of a block mapping up to its end. -/
def blockPairs : Nat → Compose (List (Node × Node))
  | 0 => throw .misplaced
  | fuel + 1 => do
    match ← peek with
    | some .key =>
      next
      let key ← nodeBefore true true [.key, .value, .blockEnd] fuel
      let value ← valueAfterColon true [.key, .value, .blockEnd] fuel
      return (key, value) :: (← blockPairs fuel)
    | some .blockEnd => next; return []
    | _ => throw .misplaced

/-- The value after a colon; a missing one if there is no colon. -/
def valueAfterColon (block : Bool) (ends : List Token) : Nat → Compose Node
  | 0 => throw .misplaced
  | fuel + 1 => do
    match ← peek with
    | some .value => next; nodeBefore block block ends fuel
    | _ => missing

/-- The items of a flow sequence up to its end. -/
def flowItems (first : Bool) : Nat → Compose (List Node)
  | 0 => throw .misplaced
  | fuel + 1 => do
    if (← peek) = some .flowSequenceEnd then next; return []
    separator first
    match ← peek with
    | some .flowSequenceEnd => next; return []
    | some .key =>
      next
      let pair ← flowPair fuel
      return pair :: (← flowItems false fuel)
    | _ =>
      let item ← node false false fuel
      return item :: (← flowItems false fuel)

/-- A key and its value as an item of a flow sequence. Where the key is missing, the token
after it is passed over whatever it is. -/
def flowPair : Nat → Compose Node
  | 0 => throw .misplaced
  | fuel + 1 => do
    let ends := [Token.comma, .flowSequenceEnd]
    let _ ← event
    let key ←
      if isValue (.value :: ends) (← peek) then node false false fuel
      else do next; missing
    let value ← valueAfterColon false ends fuel
    let _ ← event
    return .mapping none [(key, value)]

/-- The pairs of a flow mapping up to its end. -/
def flowPairs (first : Bool) : Nat → Compose (List (Node × Node))
  | 0 => throw .misplaced
  | fuel + 1 => do
    let ends := [Token.comma, .flowMappingEnd]
    if (← peek) = some .flowMappingEnd then next; return []
    separator first
    match ← peek with
    | some .flowMappingEnd => next; return []
    | some .key =>
      next
      let key ← nodeBefore false false (.value :: ends) fuel
      let value ← valueAfterColon false ends fuel
      return (key, value) :: (← flowPairs false fuel)
    | _ =>
      let key ← node false false fuel
      let value ← missing
      return (key, value) :: (← flowPairs false fuel)

end

/-! ## Documents -/

/-- The directives before a document, none of them twice: the handles and the tokens after them. -/
def directives (versionSeen : Bool) (handles : List (String × TagBytes)) :
    List Token → Except Fault (List (String × TagBytes) × List Token)
  | .version major minor :: tokens => do
    if versionSeen || major ≠ 1 || !(minor = 1 || minor = 2) then throw .directive
    directives true handles tokens
  | .tagDirective handle start :: tokens => do
    if (handles.lookup handle).isSome then throw .directive
    directives versionSeen ((handle, start) :: handles) tokens
  | tokens => return (handles, tokens)

/-- The handles that need no directive. A directive for one of them comes before these. -/
def standardHandles : List (String × TagBytes) :=
  [("!", markByte), ("!!", "tag:yaml.org,2002:".toList.flatMap String.utf8EncodeChar)]

def addStandardHandles : Compose Unit :=
  modify fun c => { c with handles := c.handles ++ standardHandles }

/-- Passes over directives. -/
def skipDirectives : Compose Unit := do
  let c ← get
  let (handles, tokens) ← directives false c.handles c.tokens
  set { c with handles, tokens }

/-- Whether a token introduces a document with a mark. -/
def introduces : Token → Bool
  | .version _ _ => true
  | .tagDirective _ _ => true
  | .documentStart => true
  | _ => false

/-- Passes over marks for the end of the document. -/
def skipEnds : Compose Unit :=
  modify fun c => { c with tokens := c.tokens.dropWhile (· = .documentEnd) }

/-- The root of the first document; a missing node if there is none. -/
def root (fuel : Nat) : Compose Node := do
  match ← peek with
  | none => missing
  | some token =>
    if introduces token then do
      skipDirectives
      addStandardHandles
      if (← peek) ≠ some .documentStart then throw .misplaced
      next
      match ← peek with
      | none => missing
      | some token =>
        if introduces token || token = .documentEnd then missing else node true false fuel
    else do
      addStandardHandles
      node true false fuel

/-- The root of the one document. -/
def documentWith (fuel : Nat) : Compose Node := do
  let node ← root fuel
  skipEnds
  if (← peek).isSome then throw .secondDocument
  return node

/-- **The one document of a text.** Collections are nested, and follow one another, no more than
twice for every token. -/
def document : Compose Node := do
  documentWith (2 * (← get).tokens.length + 4)

end Compose

/-- A document with the nodes that its aliases stand for. -/
structure Document where
  root : Node
  /-- The nodes of numbers. -/
  target? : Nat → Option Node
  events : Nat

/-- **The document of a text.** -/
def document (text : String) : Except Fault Document := do
  let (root, c) ← Compose.document.run { tokens := ← tokens text }
  return {
    root := root
    target? := fun number => (c.starts.lookup number).bind fun serial => c.anchored.lookup serial
    events := c.events }

end Yaml
end Gradebook
