/-
# Code hosting platforms

Every student has a project on a code hosting platform. Its name is made of the student's
group, names and login; the links to it depend on the kind of platform.
-/

import Gradebook.Record

namespace Gradebook

/-- The kinds of platform. -/
inductive PlatformKind where
  | gitlab
  | gitea
deriving DecidableEq, Inhabited

/-- Where the projects of students are. -/
structure Platform where
  kind : PlatformKind
  baseUrl : String
  namespaceName : String
  /-- What the links to task descriptions start with; empty if there are none. -/
  taskUrlPrefix : String
deriving DecidableEq, Inhabited

namespace Platform

/-- A name without dashes and apostrophes. -/
def cleanName (name : List Char) : List Char := name.filter fun c => c ≠ '-' && c ≠ '\''

/-- A login without the pairs of underscores in it, which are looked for from the left. -/
def cleanLogin : List Char → List Char
  | '_' :: '_' :: rest => cleanLogin rest
  | c :: rest => c :: cleanLogin rest
  | [] => []

/-- **The name of a student's project.** -/
def projectName (s : Student) : String :=
  s.group ++ "-" ++ String.ofList (cleanName s.firstName.toList) ++ "-"
    ++ String.ofList (cleanName s.lastName.toList) ++ "-"
    ++ String.ofList (cleanLogin s.login.toList)

variable (p : Platform)

def projectUrl (project : String) : String :=
  p.baseUrl ++ "/" ++ p.namespaceName ++ "/" ++ project

/-- The link to one pipeline run. -/
def pipelineUrl (project : String) (id : UInt64) : String :=
  match p.kind with
  | .gitlab => p.projectUrl project ++ "/-/pipelines/" ++ toString id.toNat
  | .gitea => p.projectUrl project ++ "/actions/runs/" ++ toString id.toNat

/-- The link to the list of submissions. -/
def submitsUrl (project : String) : String :=
  match p.kind with
  | .gitlab => p.projectUrl project ++ "/-/jobs"
  | .gitea => p.projectUrl project ++ "/actions"

/-- The link to the branch that holds the submissions for a task. -/
def branchUrl (project taskId : String) : String :=
  match p.kind with
  | .gitlab => p.projectUrl project ++ "/-/tree/submits/" ++ taskId
  | .gitea => p.projectUrl project ++ "/src/branch/" ++ taskId

/-- The link to the description of a task. -/
def taskUrl? (taskId : String) : Option String :=
  if p.taskUrlPrefix.isEmpty then none else some (p.taskUrlPrefix ++ "/" ++ taskId)

end Platform
end Gradebook
