/-
# Grading from a repository

A single student is graded from the records that belong to the student, a group from all
records at once. Both look for the course first.
-/

import Gradebook.Catalog
import Gradebook.Cohort
import Gradebook.Repository

namespace Gradebook
namespace Repository

variable (platform : Platform) (catalog : Catalog)

/-- A report, or the error of the course as an error of grading. -/
def graded (course : Course) (dossier : Dossier) : Except GradingError Report :=
  (gradeStudent course platform dossier).mapError .course

/-- **The report of a student.** -/
def report (student : Student) : Query Report := do
  let course ← catalog.course student.group
  let project := Platform.projectName student
  let pipelines ← read .listProjectPipelines (·.projectPipelines project)
  let flags ← read .listStudentFlags (·.studentFlags student.login)
  let overrides ← read .listStudentOverrides (·.studentOverrides student.login)
  graded platform course {
    student := student
    project := project
    evidence := .gather student.login pipelines flags
    overrides := overridesByTask (overrides.filter fun o => o.login = student.login) }

/-- The standings of some students from all records. -/
def tabulate (group : String) (course : Course) (students : List Student)
    (pipelines : List Pipeline) (flags : List Flag) (overrides : List Override) :
    Except GradingError Standings := do
  let cohort := Cohort.ofRecords pipelines flags overrides
  let reports ← students.mapM fun student => graded platform course (cohort.dossier student)
  return { group := group, course := course, users := rank reports }

/-- **The standings of a group,** of those students in it that a test keeps. -/
def standings (group : String) (keeps : Student → Bool) : Query Standings := do
  let course ← catalog.course group
  let students ← read .listGroupStudents (·.groupStudents group)
  let pipelines ← read .listAllPipelines (·.pipelines)
  let flags ← read .listClaimedFlags (·.claimedFlags)
  let overrides ← read .listAllOverrides (·.overrides)
  tabulate platform group course (students.filter keeps) pipelines flags overrides

end Repository
end Gradebook
