/-
# Catalogs

A catalog has a course for every group of students that is graded. It is loaded from the
documents of all sources at once, or not at all. A catalog that is published gets a number of
its own, so that two publications are told apart even if their catalogs are the same.
-/

import Gradebook.Course.Source
import Gradebook.Grading.Error

namespace Gradebook

/-- The courses by group of students. -/
abbrev Catalog : Type := NameMap Course

namespace Catalog

/-- The course of a group. -/
def course (c : Catalog) (group : String) : Except GradingError Course :=
  match c.find? group with
  | some course => .ok course
  | none => .error (.notGradedYet group)

/-- Whether two catalogs have courses of the same content for the same groups. -/
def same (a b : Catalog) : Bool := NameMap.agree Course.same a b

end Catalog

section

variable {m : Type → Type} [Monad m] (fileText : String → m (Except String String))

/-- The course of a source. The files are read by a given function, which gives the text of
a path or says why there is none. -/
def CourseSource.load (s : CourseSource) : ExceptT CourseError m Course := do
  match ← fileText s.path with
  | .error reason => throw (.unreadable s.path reason)
  | .ok text =>
    match Course.read s.layout text with
    | .ok course => return course
    | .error e => throw (.inGroup s.group e)

/-- **The catalog of a list of sources.** Of several sources for one group the last counts;
the first source that has no course decides about the error. -/
def Catalog.load (sources : List CourseSource) : ExceptT CourseError m Catalog :=
  sources.foldlM (fun catalog s => return catalog.insert s.group (← s.load fileText)) .empty

end

/-- A catalog as published. -/
structure Publication where
  number : Nat
  catalog : Catalog
deriving DecidableEq

/-- The publication that follows. -/
def Publication.next (p : Publication) (catalog : Catalog) : Publication :=
  ⟨p.number + 1, catalog⟩

/-- Whether the content of a catalog differs from what is published. -/
def Publication.changedBy (p : Publication) (catalog : Catalog) : Bool :=
  !p.catalog.same catalog

end Gradebook
