/-
# Values

What a document says once aliases, tags and the spelling of scalars are resolved. A number is
the same key as another if they are both whole or both not and equal; here the datum that is
not a number equals itself. Mappings are compared without regard to order, tags by their names.
-/

import Gradebook.Binary64.Basic
import Gradebook.Decimal.Style
import Gradebook.Text.Quoted

namespace Gradebook
namespace Yaml

inductive Value where
  | null
  | bool (value : Bool)
  | integer (value : Int)
  | float (value : Binary64)
  | string (value : String)
  | sequence (items : List Value)
  | mapping (pairs : List (Value × Value))
  | tagged (tag : String) (value : Value)
deriving Inhabited

/-- The name of a tag: without its first exclamation mark, unless that is all it has. -/
def tagName (tag : String) : String :=
  match tag.toList with
  | '!' :: c :: rest => String.ofList (c :: rest)
  | _ => tag

namespace Value

mutual

/-- Whether two values are the same. -/
def same : Value → Value → Bool
  | null, null => true
  | bool a, bool b => a = b
  | integer a, integer b => a = b
  | float a, float b => (a.isNaN && b.isNaN) || a.numericEq b
  | string a, string b => a = b
  | sequence xs, sequence ys => sameItems xs ys
  | mapping ps, mapping qs => ps.length = qs.length && samePairs ps qs
  | tagged s a, tagged t b => tagName s = tagName t && same a b
  | _, _ => false

def sameItems : List Value → List Value → Bool
  | [], [] => true
  | x :: xs, y :: ys => same x y && sameItems xs ys
  | _, _ => false

/-- Whether every pair of the first list is among the second. -/
def samePairs : List (Value × Value) → List (Value × Value) → Bool
  | [], _ => true
  | (k, v) :: rest, others =>
    (others.any fun other => same k other.1 && same v other.2) && samePairs rest others

end

/-- The pairs of a mapping with one more, whose key has to be a new one. -/
def addPair? (pairs : List (Value × Value)) (key value : Value) : Option (List (Value × Value)) :=
  if pairs.any fun pair => pair.1.same key then none else some (pairs ++ [(key, value)])

mutual

/-- The value with the name of every tag in its place; none if keys of a mapping in it become
the same. -/
def renamed? : Value → Option Value
  | sequence items => (renamedItems? items).map sequence
  | mapping pairs => (renamedPairs? [] pairs).map mapping
  | tagged tag value => (renamed? value).map (tagged (tagName tag))
  | null => some null
  | bool b => some (bool b)
  | integer n => some (integer n)
  | float x => some (float x)
  | string s => some (string s)

def renamedItems? : List Value → Option (List Value)
  | [] => some []
  | item :: rest => do return (← renamed? item) :: (← renamedItems? rest)

/-- The pairs with renamed tags, after those that are known. -/
def renamedPairs? (known : List (Value × Value)) :
    List (Value × Value) → Option (List (Value × Value))
  | [] => some known
  | (key, value) :: rest => do
    let known ← addPair? known (← renamed? key) (← renamed? value)
    renamedPairs? known rest

end

/-- Without its tags. -/
def untagged : Value → Value
  | tagged _ value => value.untagged
  | value => value

def numberText (x : Binary64) : String := x.text .compact

mutual

/-- **A value with its kind spelled out,** such as `Sequence [Number(1), String("a")]`. -/
def description : Value → String
  | null => "Null"
  | bool value => "Bool(" ++ toString value ++ ")"
  | integer value => "Number(" ++ toString value ++ ")"
  | float value => "Number(" ++ numberText value ++ ")"
  | string value => "String(" ++ Text.quoted value ++ ")"
  | sequence items => "Sequence [" ++ ", ".intercalate (itemDescriptions items) ++ "]"
  | mapping pairs =>
    "Mapping \x7b" ++ ", ".intercalate (pairDescriptions pairs) ++ "\x7d"
  | tagged tag value =>
    "TaggedValue \x7b tag: !" ++ tagName tag ++ ", value: " ++ description value ++ " \x7d"

def itemDescriptions : List Value → List String
  | [] => []
  | item :: rest => description item :: itemDescriptions rest

/-- Keys that are scalars are written without their kind. -/
def pairDescriptions : List (Value × Value) → List String
  | [] => []
  | (key, value) :: rest =>
    let name := match key with
      | bool b => toString b
      | integer n => toString n
      | float x => numberText x
      | string s => Text.quoted s
      | other => description other
    (name ++ ": " ++ description value) :: pairDescriptions rest

end

end Value
end Yaml
end Gradebook
