/-
# Reports and standings as JSON

Of a task result the instant and the links are left out where there are none.
-/

import Gradebook.Course.Json
import Gradebook.Report

namespace Gradebook

def TaskResult.toJson (t : TaskResult) : Json :=
  .members ([("task_id", .string t.taskId), ("status", .string t.status.name),
      ("score", .nat t.score.toNat), ("max_score", .nat t.maxScore.toNat),
      ("overridden", .bool t.overridden)]
    ++ Json.member? "submitted_at" (t.submittedAt.map fun a => .string a.text)
    ++ Json.member? "task_url" (t.taskUrl.map .string)
    ++ Json.member? "pipeline_url" (t.pipelineUrl.map .string)
    ++ Json.member? "branch_url" (t.branchUrl.map .string))

def GroupResult.toJson (g : GroupResult) : Json :=
  .members [("title", .string g.title), ("pretty_title", .string g.prettyTitle),
    ("scoring_group", .string g.scoringGroup), ("deadline", .string g.deadline.text),
    ("tasks", .list (g.tasks.map TaskResult.toJson)), ("score", .nat g.score),
    ("max_score", .nat g.maxScore)]

def Summary.toJson (s : Summary) : Json :=
  .members [("login", .string s.login), ("first_name", .string s.firstName),
    ("last_name", .string s.lastName), ("group_name", .string s.group),
    ("retake", .bool s.retake), ("project", .string s.project),
    ("project_url", .string s.projectUrl), ("submits_url", .string s.submitsUrl)]

def Report.toJson (r : Report) : Json :=
  .members [("student", r.student.toJson), ("groups", .list (r.groups.map GroupResult.toJson)),
    ("score", .nat r.score), ("max_score", .nat r.maxScore), ("final_mark", .number r.finalMark)]

def Standings.toJson (s : Standings) : Json :=
  .members [("group", .string s.group), ("course", s.course.toJson),
    ("users", .list (s.users.map Report.toJson))]

end Gradebook
