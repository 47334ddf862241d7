/-
# Cohorts

A cohort is graded from all records at once, sorted by what they belong to: pipelines by
project, claimed flags by login, overrides by login and task. The reports are ranked by final
mark, the highest first, and then by name. Marks are compared by the total order of binary64
data, in which every datum has its place.
-/

import Gradebook.Grading

namespace Gradebook

/-- The records of a cohort by project and by login. -/
structure Cohort where
  pipelines : NameMap (List Pipeline)
  flags : NameMap (List Flag)
  overrides : NameMap (List Override)
deriving DecidableEq

namespace Cohort

/-- Adds a record to the end of those of a name. -/
def file {α : Type} (m : NameMap (List α)) (name : String) (record : α) : NameMap (List α) :=
  m.insert name ((m.find? name).getD [] ++ [record])

/-- Adds a flag to those of the student who claimed it. -/
def fileFlag (m : NameMap (List Flag)) (f : Flag) : NameMap (List Flag) :=
  match f.claimedBy with
  | some login => file m login f
  | none => m

/-- **Sorts records by project and by login.** -/
def ofRecords (pipelines : List Pipeline) (flags : List Flag) (overrides : List Override) :
    Cohort where
  pipelines := pipelines.foldl (fun m p => file m p.project p) .empty
  flags := flags.foldl fileFlag .empty
  overrides := overrides.foldl (fun m o => file m o.login o) .empty

/-- The evidence of a student. -/
def evidence (c : Cohort) (login project : String) : Evidence :=
  .gather login ((c.pipelines.find? project).getD []) ((c.flags.find? login).getD [])

/-- The overrides of a student by task, if there are any. -/
def overrides? (c : Cohort) (login : String) : Option (NameMap Override) :=
  (c.overrides.find? login).map overridesByTask

/-- A student with what the cohort has on record. -/
def dossier (c : Cohort) (s : Student) : Dossier :=
  let project := Platform.projectName s
  { student := s
    project := project
    evidence := c.evidence s.login project
    overrides := (c.overrides? s.login).getD .empty }

end Cohort

/-- The order of reports in standings. -/
def Report.compareStanding (a b : Report) : Ordering :=
  (b.finalMark.totalCompare a.finalMark).then (compare a.student.sortName b.student.sortName)

/-- **Reports in the order of their standing;** equal ones stay in their order. -/
def rank (reports : List Report) : List Report :=
  reports.mergeSort fun a b => (a.compareStanding b).isLE

end Gradebook
