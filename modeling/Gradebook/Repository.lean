/-
# The repository

A repository gives access to a register. Each kind of access can fail for a time, and the
repository keeps a log of all of them, those that failed too.
-/

import Gradebook.Grading.Error
import Gradebook.Register

namespace Gradebook

/-- The kinds of access to a repository. -/
inductive Access where
  | findStudent
  | listGroupStudents
  | listProjectPipelines
  | listAllPipelines
  | listStudentFlags
  | listClaimedFlags
  | listStudentOverrides
  | listAllOverrides
  | setOverride
  | removeOverride
deriving DecidableEq

namespace Access

def name : Access → String
  | findStudent => "find_student"
  | listGroupStudents => "list_group_students"
  | listProjectPipelines => "list_project_pipelines"
  | listAllPipelines => "list_all_pipelines"
  | listStudentFlags => "list_student_flags"
  | listClaimedFlags => "list_claimed_flags"
  | listStudentOverrides => "list_student_overrides"
  | listAllOverrides => "list_all_overrides"
  | setOverride => "upsert_override"
  | removeOverride => "remove_override"

def all : List Access :=
  [findStudent, listGroupStudents, listProjectPipelines, listAllPipelines, listStudentFlags,
    listClaimedFlags, listStudentOverrides, listAllOverrides, setOverride, removeOverride]

/-- The access of a name. -/
def ofName? (name : String) : Option Access := all.find? fun access => access.name = name

end Access

structure Repository where
  register : Register
  /-- The kinds of access that fail at present. -/
  offline : List Access := []
  /-- The accesses so far, the last one first. -/
  log : List Access := []
deriving DecidableEq, Inhabited

/-- A computation with access to a repository. -/
abbrev Query (α : Type) : Type := ExceptT GradingError (StateM Repository) α

namespace Repository

/-- The repository after an access. -/
def logged (r : Repository) (access : Access) : Repository := { r with log := access :: r.log }

/-- Makes an access that gives a value and may change the register. -/
def update {α : Type} (access : Access) (f : Register → α × Register) : Query α := do
  let repository := (← get).logged access
  if access ∈ repository.offline then
    set repository
    throw (.unavailable (access.name ++ " offline"))
  else
    let (value, register) := f repository.register
    set { repository with register := register }
    return value

/-- Makes an access that gives a value. -/
def read {α : Type} (access : Access) (f : Register → α) : Query α :=
  update access fun register => (f register, register)

end Repository
end Gradebook
