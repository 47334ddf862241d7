/-
# From nodes to values

A plain scalar without a tag is null, a truth value, a whole number or another number if it is
spelled like one, and a text else. Whole numbers with more than 64 but no more than 128 bits
are refused; larger ones are read as other numbers. The standard tags for these kinds force
them; a tag that starts with an exclamation mark is local and kept with the value, and any other
makes the scalar a text.

Aliases are replaced by what they stand for. Collections may be nested 128 deep, and a hundred
aliases may be followed for every event of the document.
-/

import Gradebook.Decimal.Reading
import Gradebook.Text.Utf8
import Gradebook.Yaml.Node
import Gradebook.Yaml.Value

namespace Gradebook
namespace Yaml

/-! ## Scalars -/

def isNullText (s : String) : Bool := s ∈ ["null", "Null", "NULL", "~"]

def readBool? (s : String) : Option Bool :=
  if s ∈ ["true", "True", "TRUE"] then some true
  else if s ∈ ["false", "False", "FALSE"] then some false
  else none

/-- Whether a text has only digits, after a sign, and starts with a zero that is not needed. -/
def hasLeadingZero (s : List Char) : Bool :=
  let digits := match s with
    | '-' :: rest => rest
    | '+' :: rest => rest
    | s => s
  1 < digits.length && digits.head? = some '0' && digits.all Char.isDigit

/-- A number in a base up to sixteen: one digit at least and nothing else. -/
def readBase? (base : Nat) (s : List Char) : Option Nat :=
  if s.isEmpty then none
  else s.foldlM (fun value c => do
    let digit ← Text.hexDigit? c
    if digit < base then some (value * base + digit) else none) 0

/-- A whole number without a sign, in base sixteen, eight or two after `0x`, `0o` or `0b`. -/
def readUnsigned? : List Char → Option Nat
  | '0' :: 'x' :: rest => readBase? 16 rest
  | '0' :: 'o' :: rest => readBase? 8 rest
  | '0' :: 'b' :: rest => readBase? 2 rest
  | s => readBase? 10 s

/-- A whole number. -/
def readInteger? (s : List Char) : Option Int :=
  if hasLeadingZero s then none
  else
    match s with
    | '-' :: rest => (readUnsigned? rest).map fun n => -(n : Int)
    | '+' :: rest => (readUnsigned? rest).map fun n => (n : Int)
    | s => (readUnsigned? s).map fun n => (n : Int)

/-- Any number: a finite decimal with one sign, or one of three words after a point. -/
def readFloat? (s : String) : Option Binary64 :=
  if s ∈ [".inf", ".Inf", ".INF", "+.inf", "+.Inf", "+.INF"] then some (Binary64.infinity false)
  else if s ∈ ["-.inf", "-.Inf", "-.INF"] then some (Binary64.infinity true)
  else if s ∈ [".nan", ".NaN", ".NAN"] then some Binary64.notANumber
  else
    match Binary64.read? s with
    | some x => if x.isFinite then some x else none
    | none => none

/-- Whether a whole number has no more than 64 bits. -/
def isWord (n : Int) : Bool := -0x8000000000000000 ≤ n && n < 0x10000000000000000

/-- Whether a whole number has no more than 128 bits. -/
def isDoubleWord (n : Int) : Bool :=
  -0x80000000000000000000000000000000 ≤ n && n < 0x100000000000000000000000000000000

/-- A text without a tag of its own. -/
def plainValue (text : String) : Except Fault Value :=
  if text.isEmpty || isNullText text then .ok .null
  else
    match readBool? text with
    | some b => .ok (.bool b)
    | none =>
      let chars := text.toList
      match (readInteger? chars).filter isDoubleWord with
      | some n => if isWord n then .ok (.integer n) else .error .value
      | none =>
        match if hasLeadingZero chars then none else readFloat? text with
        | some x => .ok (.float x)
        | none => .ok (.string text)

/-- The value of a scalar whose own tag, if it has one, is already taken care of. -/
def untaggedValue (text : String) (plain : Bool) : Except Fault Value :=
  if plain then plainValue text else .ok (.string text)

/-- A value of a kind that a tag forces. -/
def forced {α : Type} (kind : α → Value) : Option α → Except Fault Value
  | some x => .ok (kind x)
  | none => .error .value

/-- Whether a tag is a local one. -/
def isLocal (tag : TagBytes) : Bool := tag.head? = markByte.head?

/-- The text of a local tag after its exclamation mark, which stays if it is all there is. None
if the bytes are no text; such a tag has no effect. -/
def localTag? (tag : Option TagBytes) : Option String :=
  match tag.filter isLocal with
  | none => none
  | some bytes => Text.ofUtf8? (if bytes = markByte then bytes else bytes.drop 1)

/-- **The value of a scalar** that no local tag is kept with. -/
def scalarValue (tag : Option TagBytes) (text : String) (plain : Bool) : Except Fault Value :=
  match tag.filter (!isLocal ·) with
  | none => untaggedValue text plain
  | some bytes =>
    match Text.ofUtf8? bytes with
    | some "tag:yaml.org,2002:bool" => forced .bool (readBool? text)
    | some "tag:yaml.org,2002:int" => forced .integer ((readInteger? text.toList).filter isWord)
    | some "tag:yaml.org,2002:float" => forced .float (readFloat? text)
    | some "tag:yaml.org,2002:null" => if isNullText text then .ok .null else .error .value
    | _ => .ok (.string text)

/-! ## Documents -/

/-- Counts the aliases that are followed. -/
abbrev Resolve := StateT Nat (Except Fault)

/-- Adds a local tag to a value. -/
def withTag (tag : Option TagBytes) (value : Value) : Value :=
  match localTag? tag with
  | none => value
  | some text => .tagged text value

/-- The node itself, or the node that an alias stands for. -/
def follow (d : Document) (node : Node) : Resolve Node :=
  match node with
  | .alias number => do
    let followed := (← get) + 1
    if d.events * 100 < followed then throw .tooManyAliases
    set followed
    match d.target? number with
    | some target => return target
    | none => throw .undefinedAnchor
  | node => return node

/-- The value of a node, with collections nested no deeper than `depth`. -/
def resolve (d : Document) : Nat → Node → Resolve Value
  | depth, node => do
    match ← follow d node with
    | .scalar tag text plain =>
      return withTag tag (← scalarValue tag text plain)
    | .sequence tag items =>
      match depth with
      | 0 => throw .tooDeep
      | depth + 1 =>
        let values ← items.mapM fun item => resolve d depth item
        return withTag tag (.sequence values)
    | .mapping tag pairs =>
      match depth with
      | 0 => throw .tooDeep
      | depth + 1 =>
        let values ← pairs.foldlM (fun known pair => do
          let key ← resolve d depth pair.1
          let value ← resolve d depth pair.2
          match Value.addPair? known key value with
          | some known => return known
          | none => throw .duplicateKey) []
        return withTag tag (.mapping values)
    | .alias _ => throw .undefinedAnchor

/-- How deep collections may be nested. -/
def depthLimit : Nat := 128

/-- **The value of a text.** -/
def Value.read (text : String) : Except Fault Value := do
  let d ← document text
  let (value, _) ← (resolve d depthLimit d.root).run 0
  return value

end Yaml
end Gradebook
