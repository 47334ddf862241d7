/-
# Decoding JSON

A decoder turns a document into a value of the domain or says why it cannot. There are two
kinds of fault: the text is not JSON (`malformed`), or it is JSON but of the wrong shape
(`mismatch`). A document is decoded in the order of its text and the first fault counts, so a
wrong member is a mismatch even if the text breaks off after it.
-/

import Gradebook.Json.Basic

namespace Gradebook
namespace Json

/-- Why a text has no value. -/
inductive Fault where
  | malformed
  | mismatch
deriving DecidableEq

abbrev Decoder (α : Type) := Json → Except Fault α

/-- The fault of a document where something else was expected. A number out of range is no number
at all. -/
def unexpected {α : Type} : Decoder α
  | broken => .error .malformed
  | unpaired => .error .malformed
  | float value => .error (if value.isInfinite then .malformed else .mismatch)
  | _ => .error .mismatch

def text : Decoder String
  | string value => .ok value
  | other => unexpected other

def boolean : Decoder Bool
  | bool value => .ok value
  | other => unexpected other

/-- A whole number below a bound. -/
def natBelow (bound : Nat) : Decoder Nat
  | integer (.ofNat n) => if n < bound then .ok n else unexpected (integer n)
  | other => unexpected other

/-- Null, or a value. -/
def nullable {α : Type} (decode : Decoder α) : Decoder (Option α)
  | null => .ok none
  | other => (decode other).map some

/-- A text in a form of its own. -/
def textForm {α : Type} (read? : String → Option α) : Decoder α := fun j => do
  let s ← text j
  match read? s with
  | some value => .ok value
  | none => .error .mismatch

/-- **One of a number of named values,** written as its name or as an object whose one member
has the name and is null. -/
def choice {α : Type} (read? : String → Option α) : Decoder α
  | string name =>
    match read? name with
    | some value => .ok value
    | none => .error .mismatch
  | object ((some name, value) :: others) closed =>
    match read? name with
    | none => .error .mismatch
    | some found =>
      match value with
      | null => if others.isEmpty && closed then .ok found else .error .malformed
      | other => unexpected other
  | _ => .error .malformed

def decodeItems {α : Type} (decode : Decoder α) (closed : Bool) : List Json → Except Fault (List α)
  | [] => if closed then .ok [] else .error .malformed
  | item :: rest => do
    let first ← decode item
    let others ← decodeItems decode closed rest
    return first :: others

/-- An array. -/
def listOf {α : Type} (decode : Decoder α) : Decoder (List α)
  | array items closed => decodeItems decode closed items
  | other => unexpected other

/-! ## Records -/

/-- A field of a record: its name, what its values have to pass, and whether it may be
missing. -/
structure Field where
  name : String
  check : Decoder Unit
  optional : Bool := false

/-- A field with the values of a decoder. -/
def Field.of {α : Type} (name : String) (decode : Decoder α) (optional : Bool) : Field where
  name := name
  check j := (decode j).map fun _ => ()
  optional := optional

/-- The values found for the fields of a record. -/
abbrev Slots := List (String × Json)

/-- The members of an object go to the fields of their names. Members of other names are
passed over if they are whole; a second member for a field is a mismatch. -/
def slotsOfMembers (fields : List Field) (closed : Bool) (slots : Slots) :
    List (Option String × Json) → Except Fault Slots
  | [] => if closed then .ok slots else .error .malformed
  | (none, _) :: _ => .error .malformed
  | (some name, value) :: rest =>
    match fields.find? fun field => field.name = name with
    | none =>
      if value.isWhole then slotsOfMembers fields closed slots rest else .error .malformed
    | some field =>
      if (slots.lookup name).isSome then .error .mismatch
      else do
        field.check value
        slotsOfMembers fields closed (slots ++ [(name, value)]) rest

/-- The items of an array go to the fields in their order; more items than fields are not
read. -/
def slotsOfItems (closed : Bool) : List Field → List Json → Except Fault Slots
  | [], [] => if closed then .ok [] else .error .malformed
  | [], _ :: _ => .error .malformed
  | field :: fields, [] =>
    if !closed then .error .malformed
    else if field.optional then slotsOfItems closed fields []
    else .error .mismatch
  | field :: fields, item :: items => do
    field.check item
    let slots ← slotsOfItems closed fields items
    return (field.name, item) :: slots

/-- **The values for the fields of a record,** each of them checked, from an object or from an
array with the values in the order of the fields. -/
def slots (fields : List Field) : Decoder Slots
  | object members closed => do
    let slots ← slotsOfMembers fields closed [] members
    if fields.all fun field => field.optional || (slots.lookup field.name).isSome then
      return slots
    else .error .mismatch
  | array items closed => slotsOfItems closed fields items
  | other => unexpected other

/-- The value of a required field. -/
def Slots.get {α : Type} (slots : Slots) (name : String) (decode : Decoder α) :
    Except Fault α :=
  match slots.lookup name with
  | some value => decode value
  | none => .error .mismatch

/-- The value of a field, or what stands for it where it is missing. -/
def Slots.getD {α : Type} (slots : Slots) (name : String) (decode : Decoder α) (default : α) :
    Except Fault α :=
  match slots.lookup name with
  | some value => decode value
  | none => .ok default

end Json
end Gradebook
