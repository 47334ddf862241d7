/-
# Course sources

The settings name the course documents as `group=path` or `group=path:layout` with commas
between them. The group ends at the first equals sign of its entry and the layout starts after
the last colon. Blanks around entries, groups, paths and layouts do not matter, and entries
with nothing in them are passed over.
-/

import Gradebook.Course.Document
import Gradebook.Text.Split

namespace Gradebook

/-- A course document of a group. -/
structure CourseSource where
  group : String
  path : String
  layout : Course.Layout
deriving DecidableEq, Inhabited

namespace CourseSource

/-- Why a list of sources cannot be read. -/
inductive Fault where
  | entry (text : String)
  | layout (name : String)
deriving DecidableEq

def isBlank (s : List Char) : Bool := s.all Text.isBlank

/-- The path and the layout of an entry, which follow its equals sign. -/
def target (s : List Char) : Except Fault (List Char × Course.Layout) :=
  match Text.splitLast? ':' s with
  | none => .ok (s, .auto)
  | some (path, name) =>
    if path.isEmpty then .ok (s, .auto)
    else
      match Course.Layout.read? (String.ofList name) with
      | some layout => .ok (path, layout)
      | none => .error (.layout (String.ofList name))

/-- One entry without blanks at its ends. -/
def readEntry (s : List Char) : Except Fault CourseSource :=
  match Text.splitFirst? '=' s with
  | none => .error (.entry (String.ofList s))
  | some (group, rest) =>
    if isBlank group || isBlank rest then .error (.entry (String.ofList s))
    else do
      let (path, layout) ← target rest
      return ⟨String.ofList (Text.trimChars group), String.ofList (Text.trimChars path), layout⟩

/-- **Reads a list of sources.** -/
def readList (s : String) : Except Fault (List CourseSource) :=
  (((Text.splitAll ',' s.toList).map Text.trimChars).filter (· ≠ [])).mapM readEntry

end CourseSource
end Gradebook
