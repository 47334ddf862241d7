/-
# The register

The register holds all records: students, pipelines and flags as they came, and of every
student one override at most for every task. An override that is set takes the place of the
one before (`Register.override?_setOverride`).
-/

import Gradebook.Record

namespace Gradebook

structure Register where
  students : List Student := []
  pipelines : List Pipeline := []
  flags : List Flag := []
  overrides : List Override := []
deriving DecidableEq, Inhabited

/-- Whether an override is for a task of a student. -/
def Override.isFor (o : Override) (login taskId : String) : Bool :=
  o.login = login && o.taskId = taskId

namespace Register

variable (r : Register)

/-- The first student of a login. -/
def student? (login : String) : Option Student := r.students.find? fun s => s.login = login

def groupStudents (group : String) : List Student := r.students.filter fun s => s.group = group

def projectPipelines (project : String) : List Pipeline :=
  r.pipelines.filter fun p => p.project = project

/-- The flags that a student claimed. -/
def studentFlags (login : String) : List Flag :=
  r.flags.filter fun f => f.claimedBy = some login

def claimedFlags : List Flag := r.flags.filter fun f => f.claimedBy.isSome

def studentOverrides (login : String) : List Override :=
  r.overrides.filter fun o => o.login = login

/-- The override for a task of a student. -/
def override? (login taskId : String) : Option Override :=
  r.overrides.find? fun o => o.isFor login taskId

def hasOverride (login taskId : String) : Bool := (r.override? login taskId).isSome

/-- Takes away the override for a task of a student. -/
def removeOverride (login taskId : String) : Register :=
  { r with overrides := r.overrides.filter fun o => !o.isFor login taskId }

/-- **Sets an override,** in exchange for one of the same student and task. -/
def setOverride (o : Override) : Register :=
  { r with overrides := (r.removeOverride o.login o.taskId).overrides ++ [o] }

/-- **The register of given records.** The overrides are set one after the other, so the last
one for a task of a student counts. -/
def ofRecords (students : List Student) (pipelines : List Pipeline) (flags : List Flag)
    (overrides : List Override) : Register :=
  overrides.foldl setOverride { students := students, pipelines := pipelines, flags := flags }

/-! ## Overrides that are found -/

theorem override?_removeOverride (login taskId other otherTask : String) :
    (r.removeOverride login taskId).override? other otherTask =
      if other = login ∧ otherTask = taskId then none else r.override? other otherTask := by
  unfold override? removeOverride
  rw [List.find?_filter]
  split
  · next same =>
    obtain ⟨rfl, rfl⟩ := same
    simp
  · next differ =>
    congr 1
    funext o
    by_cases h : o.isFor other otherTask
    · have : o.isFor login taskId = false := by
        simp only [Override.isFor, Bool.and_eq_true, decide_eq_true_eq] at h
        simp only [Override.isFor, Bool.and_eq_false_iff, decide_eq_false_iff_not]
        grind
      simp [h, this]
    · simp [h]

/-- Setting an override changes what is found for its student and task and nothing else. -/
theorem override?_setOverride (o : Override) (login taskId : String) :
    (r.setOverride o).override? login taskId =
      if login = o.login ∧ taskId = o.taskId then some o else r.override? login taskId := by
  have removed := r.override?_removeOverride o.login o.taskId login taskId
  unfold override? at removed ⊢
  unfold setOverride
  rw [List.find?_append, removed]
  split
  · next same => simp [Override.isFor, same.1, same.2]
  · next differ =>
    have : o.isFor login taskId = false := by
      simp only [Override.isFor, Bool.and_eq_false_iff, decide_eq_false_iff_not]
      grind
    simp [this]

end Register
end Gradebook
