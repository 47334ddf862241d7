/-
# Request targets

The target of a request is a path, which may be followed by a question mark and a form and by
a number sign and a fragment, which does not count. The form is a list of names with values,
with ampersands between them. In front of the path may stand a scheme and a host.
-/

import Gradebook.Text.Percent
import Gradebook.Text.Split

namespace Gradebook
namespace Http

structure Target where
  /-- The parts of the path between its slashes, as they are written. -/
  segments : List String
  /-- The names and values of the form. -/
  form : List (String × String)
deriving DecidableEq

namespace Target

/-- A name with its value, which is empty where there is no equals sign. -/
def readPair (s : List Char) : String × String :=
  let (name, value) := (Text.splitFirst? '=' s).getD (s, [])
  (Text.ofForm name, Text.ofForm value)

def readForm (s : List Char) : List (String × String) :=
  ((Text.splitAll '&' s).filter (· ≠ [])).map readPair

/-- Whether a character can be part of a scheme. -/
def isSchemeChar (c : Char) : Bool := c.isAlphanum || c ∈ ['+', '-', '.', '~']

/-- A target without its scheme and host, if it starts with a scheme. -/
def withoutHost (s : List Char) : List Char :=
  match s.dropWhile isSchemeChar with
  | ':' :: '/' :: '/' :: rest => rest.dropWhile fun c => c ≠ '/' && c ≠ '?'
  | _ => s

/-- **Reads a target.** -/
def read (s : String) : Target :=
  let s := withoutHost (s.toList.takeWhile (· ≠ '#'))
  let (path, form) := (Text.splitFirst? '?' s).getD (s, [])
  ⟨(Text.splitAll '/' path).map String.ofList, readForm form⟩

/-- The values of a name in the form. -/
def values (t : Target) (name : String) : List String :=
  (t.form.filter fun pair => pair.1 = name).map (·.2)

/-- The value of a name that has to be in the form once. -/
def value? (t : Target) (name : String) : Option String :=
  match t.values name with
  | [value] => some value
  | _ => none

/-- The value of a name that may be in the form once: true or false, and false if it is not. -/
def flag? (t : Target) (name : String) : Option Bool :=
  match t.values name with
  | [] => some false
  | ["true"] => some true
  | ["false"] => some false
  | _ => none

end Target
end Http
end Gradebook
