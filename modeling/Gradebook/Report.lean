/-
# Reports and standings

What a student has earned, task by task and in total, and the ranked reports of a group.
-/

import Gradebook.Course.Basic
import Gradebook.Platform
import Gradebook.Signal

namespace Gradebook

/-- The outcome of one task. -/
structure TaskResult where
  taskId : String
  status : TaskStatus
  score : Score
  maxScore : Score
  /-- Whether the score was set by hand. -/
  overridden : Bool
  submittedAt : Option Instant
  taskUrl : Option String := none
  pipelineUrl : Option String := none
  branchUrl : Option String := none
deriving DecidableEq

/-- The outcome of a task group. -/
structure GroupResult where
  title : String
  prettyTitle : String
  scoringGroup : String
  deadline : LocalInstant
  tasks : List TaskResult
  score : Nat
  maxScore : Nat
deriving DecidableEq

/-- A student with the links to the project. -/
structure Summary where
  login : String
  firstName : String
  lastName : String
  group : String
  retake : Bool
  project : String
  projectUrl : String
  submitsUrl : String
deriving DecidableEq, Inhabited

/-- All that a student has earned. -/
structure Report where
  student : Summary
  groups : List GroupResult
  score : Nat
  maxScore : Nat
  finalMark : Binary64
deriving DecidableEq

/-- The reports of a group of students, ranked, and the course they are for. -/
structure Standings where
  group : String
  course : Course
  users : List Report
deriving DecidableEq

namespace Summary

def ofStudent (platform : Platform) (project : String) (s : Student) : Summary where
  login := s.login
  firstName := s.firstName
  lastName := s.lastName
  group := s.group
  retake := s.retake
  project := project
  projectUrl := platform.projectUrl project
  submitsUrl := platform.submitsUrl project

/-- The last name and the first name. -/
def sortName (s : Summary) : String := s.lastName ++ " " ++ s.firstName

end Summary

/-- The report with its task groups in reverse order. -/
def Report.newestFirst (r : Report) : Report := { r with groups := r.groups.reverse }

/-- The standings with the task groups of the course and of every report in reverse order. -/
def Standings.newestFirst (s : Standings) : Standings :=
  { s with course := s.course.newestFirst, users := s.users.map Report.newestFirst }

end Gradebook
