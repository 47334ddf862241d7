/-
# Decoding values

Records are mappings whose keys are texts, or null for a record without fields. Keys that name
no field are passed over; a field that is given twice is refused, also under two of its names.
Tags do not matter, except in a mapping that is kept as it is: there tags are known by their names.
-/

import Gradebook.Binary64.Arithmetic
import Gradebook.Yaml.Value

namespace Gradebook
namespace Yaml

/-- Why a value has not the shape that was expected. -/
inductive Shape where
  | wrongKind
  | missingField (name : String)
  | repeatedField (name : String)
  | repeatedKey
deriving DecidableEq

def Shape.message : Shape → String
  | wrongKind => "a value of another kind was expected"
  | missingField name => "missing field " ++ name
  | repeatedField name => "duplicate field " ++ name
  | repeatedKey => "duplicate key"

/-- Turns a value into one of the domain. -/
abbrev Decoder (α : Type) := Value → Except Shape α

namespace Decode

def text : Decoder String := fun v =>
  match v.untagged with
  | .string s => .ok s
  | _ => .error .wrongKind

def boolean : Decoder Bool := fun v =>
  match v.untagged with
  | .bool b => .ok b
  | _ => .error .wrongKind

/-- A whole number below a bound. -/
def natBelow (bound : Nat) : Decoder Nat := fun v =>
  match v.untagged with
  | .integer (.ofNat n) => if n < bound then .ok n else .error .wrongKind
  | _ => .error .wrongKind

/-- The number in a value, if there is one. -/
def float? (v : Value) : Option Binary64 :=
  match v.untagged with
  | .integer n => some (Binary64.ofInt n)
  | .float x => some x
  | _ => none

def float : Decoder Binary64 := fun v =>
  match float? v with
  | some x => .ok x
  | none => .error .wrongKind

/-- Null, or a value. -/
def nullable {α : Type} (decode : Decoder α) : Decoder (Option α)
  | .null => .ok none
  | v => (decode v).map some

/-- A sequence, or null for an empty one. -/
def listOf {α : Type} (decode : Decoder α) : Decoder (List α) := fun v =>
  match v.untagged with
  | .null => .ok []
  | .sequence items => items.mapM decode
  | _ => .error .wrongKind

/-- The pairs of a mapping, or none for null. -/
def pairs : Decoder (List (Value × Value)) := fun v =>
  match v.untagged with
  | .null => .ok []
  | .mapping pairs => .ok pairs
  | _ => .error .wrongKind

/-- A mapping that is kept as it is, under the names of its tags. -/
def freePairs : Decoder (List (Value × Value)) := fun v => do
  match Value.renamedPairs? [] (← pairs v) with
  | some renamed => .ok renamed
  | none => .error .repeatedKey

/-- The fields of a record by name. -/
abbrev Fields := List (String × Value)

def fields : Decoder Fields := fun v => do
  (← pairs v).mapM fun (key, value) => return (← text key, value)

/-- The value of a field, which may have several names. -/
def Fields.find? (fields : Fields) (names : List String) : Except Shape (Option Value) :=
  match fields.filter fun entry => entry.1 ∈ names with
  | [] => .ok none
  | [entry] => .ok (some entry.2)
  | entry :: _ => .error (.repeatedField entry.1)

/-- A field that has to be there. -/
def Fields.get {α : Type} (fields : Fields) (name : String) (decode : Decoder α) :
    Except Shape α := do
  match ← fields.find? [name] with
  | some value => decode value
  | none => .error (.missingField name)

/-- A field with a value for where it is missing. -/
def Fields.getD {α : Type} (fields : Fields) (names : List String) (decode : Decoder α)
    (default : α) : Except Shape α := do
  match ← fields.find? names with
  | some value => decode value
  | none => .ok default

end Decode
end Yaml
end Gradebook
