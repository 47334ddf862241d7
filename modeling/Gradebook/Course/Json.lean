/-
# Courses as JSON
-/

import Gradebook.Course.Basic
import Gradebook.Json.Basic

namespace Gradebook

def Task.toJson (t : Task) : Json :=
  .members [("id", .string t.id), ("nominal_score", .nat t.nominalScore.toNat),
    ("alternate_proof", .bool t.alternateProof)]

def TaskGroup.toJson (g : TaskGroup) : Json :=
  .members [("title", .string g.title), ("scoring_group_ref", .string g.scoringGroup),
    ("start", .string g.start.text), ("deadline", .string g.deadline.text),
    ("tasks", .list (g.tasks.map Task.toJson))]

/-- A policy; its time is given in whole seconds. -/
def Policy.toJson : Policy → Json
  | exponential halfLife floor =>
    .members [("kind", .string "exponential"), ("half_life_secs", .integer halfLife.seconds),
      ("floor_ratio", .number floor)]
  | linear grace floor =>
    .members [("kind", .string "linear"), ("grace_period_secs", .integer grace.seconds),
      ("floor_multiplier", .number floor)]

def ScoringGroup.toJson (g : ScoringGroup) : Json :=
  .members [("name", .string g.name), ("weight", .number g.weight), ("policy", .string g.policy),
    ("max_score", .nat g.maxScore)]

/-- A map as an object. -/
def NameMap.toJson {α : Type} (value : α → Json) (m : NameMap α) : Json :=
  .members (m.entries.map fun (name, entry) => (name, value entry))

def Course.toJson (c : Course) : Json :=
  .members [("task_groups", .list (c.taskGroups.map TaskGroup.toJson)),
    ("policies", c.policies.toJson Policy.toJson),
    ("scoring_groups", c.scoringGroups.toJson ScoringGroup.toJson),
    ("default_scoring_group", .string c.defaultScoringGroup),
    ("final_deadline", .optional (c.finalDeadline.map LocalInstant.text)),
    ("retake_penalty_ratio", .number c.retakeRatio)]

end Gradebook
