/-
# Putting a course together

`Course.build` makes a course from its parts or gives the first reason why it cannot. It looks
in turn for

1. a policy with a fault, in the order of their names;
2. a retake ratio that is negative or not finite;
3. a task with the identifier of an earlier one;
4. a scoring group, in the order of their names, whose policy does not exist;
5. a task group whose scoring group does not exist.

Of several scoring groups of one name the last one counts.
-/

import Gradebook.Course.Basic
import Gradebook.Course.Error

namespace Gradebook
namespace Course

/-- The scoring group of a task group and the policy of that. -/
structure Scoring where
  group : ScoringGroup
  policy : Policy
deriving DecidableEq

/-- **The scoring group and the policy of a task group.** -/
def resolve (c : Course) (g : TaskGroup) : Except CourseError Scoring :=
  match c.scoringGroups.find? (c.scoringGroupName g) with
  | none => .error (.unknownScoringGroup g.title (c.scoringGroupName g))
  | some group =>
    match c.policies.find? group.policy with
    | none => .error (.unknownPolicy group.name group.policy)
    | some policy => .ok ⟨group, policy⟩

/-- The error of the first policy with a fault. -/
def policyError? (policies : NameMap Policy) : Option CourseError :=
  policies.entries.findSome? fun (name, policy) =>
    policy.fault?.map fun fault => .invalidPolicy name fault.message

def retakeError? (ratio : Binary64) : Option CourseError :=
  if !ratio.isFinite || ratio.lt Binary64.zero then some (.invalidRetakeRatio ratio) else none

/-- The first identifier that is already among those seen or comes after itself. -/
def firstRepeated (seen : List String) : List String → Option String
  | [] => none
  | id :: rest => if id ∈ seen then some id else firstRepeated (id :: seen) rest

def taskIds (groups : List TaskGroup) : List String :=
  groups.flatMap fun g => g.tasks.map (·.id)

def duplicateError? (groups : List TaskGroup) : Option CourseError :=
  (firstRepeated [] (taskIds groups)).map .duplicateTask

/-- The error of the first scoring group whose policy does not exist. -/
def danglingError? (policies : NameMap Policy) (groups : NameMap ScoringGroup) :
    Option CourseError :=
  groups.entries.findSome? fun (name, group) =>
    if policies.contains group.policy then none else some (.unknownPolicy name group.policy)

/-- The course of the given parts before the greatest scores are known. -/
def unscored (parts : Parts) : Course where
  taskGroups := parts.taskGroups
  policies := parts.policies
  scoringGroups := .ofList (parts.scoringGroups.map fun g => (g.name, { g with maxScore := 0 }))
  defaultScoringGroup := parts.defaultScoringGroup
  finalDeadline := parts.finalDeadline
  retakeRatio := parts.retakeRatio

/-- Adds the nominal scores of a task group to those of its scoring group. -/
def addTotal (c : Course) (g : TaskGroup) : Except CourseError Course := do
  let scoring ← c.resolve g
  let group := { scoring.group with maxScore := scoring.group.maxScore + g.nominalTotal }
  return { c with scoringGroups := c.scoringGroups.insert (c.scoringGroupName g) group }

/-- Fails with an error if there is one. -/
def refuse : Option CourseError → Except CourseError Unit
  | some error => .error error
  | none => .ok ()

/-- **The course of the given parts.** -/
def build (parts : Parts) : Except CourseError Course := do
  let course := unscored parts
  refuse (policyError? parts.policies)
  refuse (retakeError? parts.retakeRatio)
  refuse (duplicateError? parts.taskGroups)
  refuse (danglingError? parts.policies course.scoringGroups)
  parts.taskGroups.foldlM addTotal course

end Course
end Gradebook
