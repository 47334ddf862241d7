/-
# JSON documents

A document keeps the order of its members and members of the same name. Numbers are whole
numbers, or those of binary64, among which infinity stands for a number out of range.

A document may also be *broken*: what was read of a text up to the point at which it stopped
being JSON. Then the last item or member holds `broken`, or the array or object is not closed.
A reader of the document that comes upon such a point knows that everything before it was
read, and whether it had another reason to refuse the document before.
-/

import Gradebook.Binary64.Arithmetic
import Gradebook.Decimal.Reading

namespace Gradebook

/-- A JSON document, whole or broken. -/
inductive Json where
  | null
  | bool (value : Bool)
  | integer (value : Int)
  | float (value : Binary64)
  | string (value : String)
  /-- A string with an escape for half of a surrogate pair. -/
  | unpaired
  | array (items : List Json) (closed : Bool)
  /-- The members in their order. A name is missing where it is an `unpaired` string. -/
  | object (members : List (Option String × Json)) (closed : Bool)
  | broken
deriving Inhabited

namespace Json

def list (items : List Json) : Json := array items true

def members (members : List (String × Json)) : Json :=
  object (members.map fun (name, value) => (some name, value)) true

def nat (n : Nat) : Json := integer n

/-- A number; null stands for what is not finite. -/
def number (x : Binary64) : Json := if x.isFinite then float x else null

/-- The text, or null. -/
def optional : Option String → Json
  | some s => string s
  | none => null

/-- A member that is left out when it is absent. -/
def member? (name : String) (value : Option Json) : List (String × Json) :=
  value.toList.map fun value => (name, value)

mutual

/-- **Whether a document has no broken part.** -/
def isWhole : Json → Bool
  | array items closed => closed && itemsWhole items
  | object members closed => closed && membersWhole members
  | broken => false
  | _ => true

def itemsWhole : List Json → Bool
  | [] => true
  | item :: rest => item.isWhole && itemsWhole rest

def membersWhole : List (Option String × Json) → Bool
  | [] => true
  | (_, value) :: rest => value.isWhole && membersWhole rest

end

/-- The first member of a name. -/
def find? (name : String) : Json → Option Json
  | object members _ => (members.find? fun member => member.1 == some name).map (·.2)
  | _ => none

end Json
end Gradebook
