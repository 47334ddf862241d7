/-
# Records

What is known about a cohort from outside: its students, the runs of their build pipelines,
the flags they claimed as proof of work done elsewhere, and the corrections made by hand.
-/

import Gradebook.Score
import Gradebook.Time.Instant

namespace Gradebook

/-- An enrolled student. -/
structure Student where
  login : String
  firstName : String
  lastName : String
  group : String
  /-- Whether the student takes the course again. -/
  retake : Bool := false
deriving DecidableEq, Inhabited

/-- The verdict on a pipeline run. -/
inductive Verdict where
  | banned
  | pending
  | running
  | success
  | failed
  | canceled
deriving DecidableEq, Inhabited

/-- A pipeline run for a task in a project. -/
structure Pipeline where
  id : UInt64
  project : String
  taskId : String
  verdict : Verdict
  startedAt : Instant
deriving DecidableEq, Inhabited

/-- A proof of completion, which one student can claim. -/
structure Flag where
  id : String
  taskId : String
  createdAt : Instant
  claimedBy : Option String := none
deriving DecidableEq, Inhabited

/-- A correction of one student's score for one task. -/
structure Override where
  login : String
  taskId : String
  score : Score
  verdict : Verdict
deriving DecidableEq, Inhabited

namespace Verdict

def name : Verdict → String
  | banned => "banned"
  | pending => "pending"
  | running => "running"
  | success => "success"
  | failed => "failed"
  | canceled => "canceled"

def all : List Verdict := [banned, pending, running, success, failed, canceled]

/-- The verdict of a name. -/
def ofName? (name : String) : Option Verdict := all.find? fun verdict => verdict.name = name

theorem ofName?_name (v : Verdict) : ofName? v.name = some v := by
  cases v <;> decide

end Verdict
end Gradebook
