/-
# The legacy layout is a shorthand

What a legacy document leaves out can be spelled out in the scored layout:

| setting | value |
| --- | --- |
| title of a task group | the name of the legacy group |
| scoring group of a task group | none, which is the default one |
| policy `default` | of kind `exp`, with a `halfLife` of `5d` and a `floorRatio` of `0.3` |
| scoring group `default` | of weight `10.0`, under the policy `default` |
| default scoring group | `default` |
| time zone, final deadline, retake ratio | none |

The legacy layout has its time zone, policy and weight as values, and the scored layout reads them
from texts. The task groups come out the same (`taskGroup_assignment`), the policy is the one of
weekly tasks (`policy_weeklyEntry`), and so the two documents have the same parts or fail with the
same error (`scoredParts_ofLegacy`).
-/

import Gradebook.Course.Document
import Mathlib.Tactic.Common

namespace Gradebook
namespace Course

open Yaml (Value)

/-! ## A legacy document in the scored layout -/

/-- A legacy group as a task group that names no scoring group. -/
def LegacyGroupEntry.assignment (g : LegacyGroupEntry) : GroupEntry where
  title := g.group
  group := ""
  start := g.start
  deadline := g.deadline
  tasks := g.tasks

/-- The policy of weekly tasks as an entry. -/
def PolicyEntry.weekly : PolicyEntry where
  name := "default"
  kind := "exp"
  spec :=
    [(.string "halfLife", .string "5d"),
      (.string "floorRatio", .float (Binary64.ofDecimal false ⟨3, -1⟩))]

/-- The only scoring group of a legacy document as an entry. -/
def ScoringGroupEntry.only : ScoringGroupEntry where
  name := "default"
  weight := Binary64.ofDecimal false ⟨100, -1⟩
  policy := "default"

/-- The two numbers of the document are those that are written `0.3` and `10.0`. -/
example : Yaml.readFloat? "0.3" = some (Binary64.ofDecimal false ⟨3, -1⟩) ∧
    Yaml.readFloat? "10.0" = some ScoringGroupEntry.only.weight := by
  decide +kernel

/-- **A legacy document spelled out.** -/
def ScoredDocument.ofLegacy (groups : List LegacyGroupEntry) : ScoredDocument where
  assignments := groups.map LegacyGroupEntry.assignment
  policies := [.weekly]
  groups := [.only]
  defaultGroup := "default"

/-! ## Both have the same parts -/

/-- A task group without a scoring group keeps its title, an empty one too. -/
theorem taskGroup_assignment (offset : Int) (g : LegacyGroupEntry) :
    g.assignment.taskGroup offset = taskGroup offset g.group "" g.start g.deadline g.tasks := by
  have title : (if g.group.isEmpty then "" else g.group) = g.group := by
    split
    · next empty => exact (String.isEmpty_iff.1 empty).symm
    · rfl
  show taskGroup offset (if g.group.isEmpty then "" else g.group) "" g.start g.deadline g.tasks = _
  rw [title]

/-- The policy that is read from the texts of the entry is the one of weekly tasks. -/
theorem policy_weeklyEntry : PolicyEntry.weekly.policy = .ok Policy.weekly := by decide +kernel

theorem weight_only : ScoringGroupEntry.only.weight = legacyWeight := by decide +kernel

/-- **A legacy document has the parts of the document that it is short for,** or fails with the
same error. -/
theorem scoredParts_ofLegacy (groups : List LegacyGroupEntry) :
    scoredParts (.ofLegacy groups) = legacyParts groups := by
  have taskGroups : (groups.map (·.assignment)).mapM (GroupEntry.taskGroup defaultOffset) =
      groups.mapM fun g => taskGroup defaultOffset g.group "" g.start g.deadline g.tasks := by
    rw [List.mapM_map]
    exact congrArg groups.mapM (funext (taskGroup_assignment defaultOffset))
  have policies : ([.weekly] : List PolicyEntry).mapM (fun p => do return (p.name, ← p.policy)) =
      .ok [(defaultName, Policy.weekly)] := by
    rw [List.mapM_cons, policy_weeklyEntry]
    rfl
  unfold scoredParts legacyParts
  simp only [ScoredDocument.ofLegacy, taskGroups, policies, pure_bind, ← weight_only]
  rfl

/-- **A legacy document is short for a scored one.** Whatever its titles, dates and tasks are, the
course that is built from it is the one that is built from the document spelled out, or both fail
with the same error. -/
theorem build_legacyParts (groups : List LegacyGroupEntry) :
    (legacyParts groups >>= build) = (scoredParts (.ofLegacy groups) >>= build) := by
  rw [scoredParts_ofLegacy]

end Course
end Gradebook
