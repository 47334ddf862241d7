/-
# Signals

What a student has achieved on a task is judged by the best evidence on record.

* Of the pipelines for the task the best is the one with the highest status; of several the
  one that started first, and then the one with the least identifier.
* Of the flags for the task that the student claimed it is the one created first, and then the
  one with the least identifier.

The pipeline counts where there is one and else the flag; for a task with alternate proof the
flag alone counts.
-/

import Gradebook.NameMap
import Gradebook.Record

namespace Gradebook

/-- The state of a task, from the worst to the best. -/
inductive TaskStatus where
  | banned
  | assigned
  | failed
  | checking
  | success
deriving DecidableEq, Inhabited

namespace TaskStatus

def rank : TaskStatus → Nat
  | banned => 0
  | assigned => 1
  | failed => 2
  | checking => 3
  | success => 4

def name : TaskStatus → String
  | banned => "banned"
  | assigned => "assigned"
  | failed => "failed"
  | checking => "checking"
  | success => "success"

/-- The state of a task after a verdict. -/
def ofVerdict : Verdict → TaskStatus
  | .banned => banned
  | .pending => checking
  | .running => checking
  | .success => success
  | .failed => failed
  | .canceled => failed

end TaskStatus

/-- The record that a signal comes from. -/
inductive Origin where
  | pipeline (id : UInt64)
  | flag (id : String)
deriving DecidableEq

/-- The best evidence for a task. -/
structure Signal where
  status : TaskStatus
  submittedAt : Instant
  origin : Origin
deriving DecidableEq

namespace Pipeline

/-- The order of evidence: by status, then the earlier start before the later one, then the
lesser identifier before the greater. -/
def compareEvidence (a b : Pipeline) : Ordering :=
  (compare (TaskStatus.ofVerdict a.verdict).rank (TaskStatus.ofVerdict b.verdict).rank).then
    ((b.startedAt.compare a.startedAt).then (compare b.id a.id))

def signal (p : Pipeline) : Signal :=
  ⟨.ofVerdict p.verdict, p.startedAt, .pipeline p.id⟩

end Pipeline

namespace Flag

/-- The order of creation, and then of identifiers. -/
def compareAge (a b : Flag) : Ordering :=
  (a.createdAt.compare b.createdAt).then (compare a.id b.id)

def signal (f : Flag) : Signal := ⟨.success, f.createdAt, .flag f.id⟩

end Flag

/-- The best pipeline and the first claimed flag of a student for each task. -/
structure Evidence where
  pipelines : NameMap Pipeline
  flags : NameMap Flag
deriving DecidableEq, Inhabited

namespace Evidence

/-- Takes a pipeline in place of the one held for its task unless that is at least as good. -/
def keepBest (best : NameMap Pipeline) (p : Pipeline) : NameMap Pipeline :=
  match best.find? p.taskId with
  | some held => if (held.compareEvidence p).isGE then best else best.insert p.taskId p
  | none => best.insert p.taskId p

/-- Takes a flag in place of the one held for its task unless that is at least as early. -/
def keepFirst (first : NameMap Flag) (f : Flag) : NameMap Flag :=
  match first.find? f.taskId with
  | some held => if (held.compareAge f).isLE then first else first.insert f.taskId f
  | none => first.insert f.taskId f

/-- **The evidence of a student** among pipelines, all of which count, and flags, of which those
claimed by the student count. -/
def gather (login : String) (pipelines : List Pipeline) (flags : List Flag) : Evidence where
  pipelines := pipelines.foldl keepBest .empty
  flags := (flags.filter fun f => f.claimedBy = some login).foldl keepFirst .empty

def pipeline? (e : Evidence) (taskId : String) : Option Pipeline := e.pipelines.find? taskId

def flag? (e : Evidence) (taskId : String) : Option Flag := e.flags.find? taskId

/-- **The signal for a task.** -/
def signal? (e : Evidence) (taskId : String) (alternateProof : Bool) : Option Signal :=
  let flag := (e.flag? taskId).map Flag.signal
  if alternateProof then flag else ((e.pipeline? taskId).map Pipeline.signal).or flag

end Evidence
end Gradebook
