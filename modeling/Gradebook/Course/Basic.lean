/-
# Courses

A course is a list of task groups, each with a deadline. A task group belongs to a scoring
group, which has a weight in the final mark and names the policy that lowers late scores; one
that names no scoring group belongs to the default one of the course.

A `Course` is made from its `Course.Parts` by `Course.build`, which checks that every name
refers to something and works out the greatest score of every scoring group.
-/

import Gradebook.NameMap
import Gradebook.Policy
import Gradebook.Time.Written

namespace Gradebook

/-- A task and the score it can earn. -/
structure Task where
  id : String
  nominalScore : Score
  /-- Whether a claimed flag, and nothing else, proves the task done. -/
  alternateProof : Bool
deriving DecidableEq, Inhabited

/-- Tasks with a common deadline. -/
structure TaskGroup where
  title : String
  /-- The name of the scoring group; empty for the default one. -/
  scoringGroup : String
  start : LocalInstant
  deadline : LocalInstant
  tasks : List Task
deriving DecidableEq, Inhabited

/-- A share of the final mark. -/
structure ScoringGroup where
  name : String
  weight : Binary64
  policy : String
  /-- The sum of the nominal scores of all tasks that belong to the group. -/
  maxScore : Nat := 0
deriving DecidableEq, Inhabited

/-- What a course is made from. -/
structure Course.Parts where
  taskGroups : List TaskGroup
  policies : NameMap Policy
  scoringGroups : List ScoringGroup
  defaultScoringGroup : String
  finalDeadline : Option LocalInstant
  retakeRatio : Binary64
deriving DecidableEq

/-- A course whose names all refer to something. -/
structure Course where
  taskGroups : List TaskGroup
  policies : NameMap Policy
  scoringGroups : NameMap ScoringGroup
  defaultScoringGroup : String
  finalDeadline : Option LocalInstant
  retakeRatio : Binary64
deriving DecidableEq

/-- The sum of the nominal scores of a task group. -/
def TaskGroup.nominalTotal (g : TaskGroup) : Nat :=
  total (g.tasks.map fun t => t.nominalScore.toNat)

namespace Course

/-- The name of the scoring group that a task group belongs to. -/
def scoringGroupName (c : Course) (g : TaskGroup) : String :=
  if g.scoringGroup.isEmpty then c.defaultScoringGroup else g.scoringGroup

/-- The first task of an identifier, with its task group. -/
def findTask? (c : Course) (taskId : String) : Option (TaskGroup × Task) :=
  c.taskGroups.findSome? fun g =>
    (g.tasks.find? fun t => t.id = taskId).map fun t => (g, t)

/-- The course with its task groups in reverse order. -/
def newestFirst (c : Course) : Course := { c with taskGroups := c.taskGroups.reverse }

end Course

/-! ## Content

Two courses have the same content if all their parts agree, dates being compared as instants,
whatever their offsets, and fractions as numbers. -/

/-- Whether two lists agree item by item. -/
def agreeWith {α : Type} (same : α → α → Bool) : List α → List α → Bool
  | [], [] => true
  | a :: as, b :: bs => same a b && agreeWith same as bs
  | _, _ => false

def TaskGroup.same (a b : TaskGroup) : Bool :=
  a.title = b.title && a.scoringGroup = b.scoringGroup && a.start.same b.start
    && a.deadline.same b.deadline && a.tasks = b.tasks

def ScoringGroup.same (a b : ScoringGroup) : Bool :=
  a.name = b.name && a.weight.numericEq b.weight && a.policy = b.policy
    && a.maxScore = b.maxScore

/-- Whether two dates that may be missing agree. -/
def sameDate? : Option LocalInstant → Option LocalInstant → Bool
  | some a, some b => a.same b
  | none, none => true
  | _, _ => false

/-- **Whether two courses have the same content.** -/
def Course.same (a b : Course) : Bool :=
  agreeWith TaskGroup.same a.taskGroups b.taskGroups
    && NameMap.agree Policy.same a.policies b.policies
    && NameMap.agree ScoringGroup.same a.scoringGroups b.scoringGroups
    && a.defaultScoringGroup = b.defaultScoringGroup
    && sameDate? a.finalDeadline b.finalDeadline
    && a.retakeRatio.numericEq b.retakeRatio

end Gradebook
