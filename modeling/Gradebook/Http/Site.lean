/-
# The site

The site answers requests over HTTP for the service.

| path | methods | answer |
| --- | --- | --- |
| `/api/v1/scores/LOGIN` | GET | the report of a student |
| `/api/v1/standings/GROUP` | GET | the standings of a group; `retakes` chooses students |
| `/api/v1/overrides` | PUT, DELETE | stores an override; takes one away by `login` and `task` |
| `/health`, `/ready`, `/metrics` | GET | the state of the site |

Reports and standings have the newest task group first. HEAD stands for GET without a body in
the answer. A request that is not understood has an answer without a document.
-/

import Gradebook.Failure
import Gradebook.Http.MediaType
import Gradebook.Http.Target
import Gradebook.Json.Reading
import Gradebook.Record.Json
import Gradebook.Report.Json
import Gradebook.Service

namespace Gradebook
namespace Http

structure Request where
  method : String
  target : String
  contentType : Option String := none
  body : String := ""
deriving DecidableEq

structure Response where
  status : Nat
  /-- The document in the body, if it is one. -/
  body : Option Json := none

structure Site where
  service : Service
  /-- Whether the service is ready to answer. -/
  ready : Bool := false

/-- What a path leads to. Names are as they are written in the path. -/
inductive Route where
  | scores (login : String)
  | standings (group : String)
  | overrides
  | health
  | ready
  | metrics
deriving DecidableEq

namespace Route

/-- The route of the segments of a path. -/
def ofSegments? : List String → Option Route
  | ["", "api", "v1", "scores", login] => if login.isEmpty then none else some (scores login)
  | ["", "api", "v1", "standings", group] =>
    if group.isEmpty then none else some (standings group)
  | ["", "api", "v1", "overrides"] => some overrides
  | ["", "health"] => some health
  | ["", "ready"] => some ready
  | ["", "metrics"] => some metrics
  | _ => none

/-- The methods that a route allows. -/
def methods : Route → List String
  | overrides => ["PUT", "DELETE"]
  | _ => ["GET", "HEAD"]

end Route

namespace Response

def badRequest : Response := ⟨400, none⟩
def notFound : Response := ⟨404, none⟩
def methodNotAllowed : Response := ⟨405, none⟩
def tooLarge : Response := ⟨413, none⟩
def unsupportedMediaType : Response := ⟨415, none⟩
def unprocessable : Response := ⟨422, none⟩
def noContent : Response := ⟨204, none⟩

def json (status : Nat) (body : Json) : Response := ⟨status, some body⟩

/-- An answer of one text. -/
def word (status : Nat) (name value : String) : Response :=
  json status (.members [(name, .string value)])

/-- The answer for an error of grading. -/
def ofError : GradingError → Response
  | .notGradedYet group =>
    json 404 (.members [("error", .string "not_graded_yet"), ("group", .string group)])
  | .studentNotFound login => word 404 "error" (GradingError.studentNotFound login).message
  | .invalidOverride reason => word 422 "error" (GradingError.invalidOverride reason).message
  | .course error => word 500 "error" (GradingError.course error).message
  | .unavailable reason => word 500 "error" (GradingError.unavailable reason).message

/-- The answer for a failure. -/
def ofFailure (failure : Failure) : Response := word failure.status "error" failure.message

/-- The answer with the result of a request to the service. -/
def ofResult {α : Type} (f : α → Response) : Except GradingError α → Response
  | .ok value => f value
  | .error e => ofError e

end Response

/-- A computation with access to a site. -/
abbrev SiteM (α : Type) : Type := StateM Site α

/-- The answer with the result of a request to the service of the site. -/
def serve {α : Type} (f : α → Response) (request : ServiceM α) : SiteM Response := fun site =>
  let (result, service) := request.run site.service
  (.ofResult f result, { site with service := service })

/-- The answer with the report of a student. -/
def answerScores (login : String) : SiteM Response :=
  match Text.ofPercent? login.toList with
  | none => return .badRequest
  | some login =>
    serve (fun report => .json 200 report.newestFirst.toJson) (Service.report login)

/-- The answer with the standings of a group. -/
def answerStandings (group : String) (target : Target) : SiteM Response :=
  match Text.ofPercent? group.toList, target.flag? "retakes" with
  | some group, some retakes =>
    serve (fun issue => .json 200 issue.standings.newestFirst.toJson)
      (Service.standings group (if retakes then .retakes else .all))
  | _, _ => return .badRequest

/-- The greatest size of a body in bytes. -/
def bodyLimit : Nat := 2 * 1024 * 1024

/-- Stores the override in the body of a request. What follows it there does not count. -/
def answerSetOverride (request : Request) : SiteM Response :=
  if (request.contentType.bind MediaType.read?).any (·.isJson) then
    if bodyLimit < request.body.utf8ByteSize then return .tooLarge
    else match Override.ofJson (Json.read request.body).1 with
    | .ok record => serve (fun _ => .noContent) (Service.setOverride record)
    | .error .malformed => return .badRequest
    | .error .mismatch => return .unprocessable
  else return .unsupportedMediaType

/-- Takes away the override for a task of a student. -/
def answerRemoveOverride (target : Target) : SiteM Response :=
  match target.value? "login", target.value? "task" with
  | some login, some task =>
    serve (fun removed =>
        if removed then .noContent
        else .json 404 (.members [("error", .string "override not found"),
          ("login", .string login), ("task", .string task)]))
      (Service.removeOverride login task)
  | _, _ => return .badRequest

/-- The answer to a request with a method that its route allows. -/
def answerRoute (request : Request) (target : Target) : Route → SiteM Response
  | .scores login => answerScores login
  | .standings group => answerStandings group target
  | .overrides =>
    if request.method = "PUT" then answerSetOverride request else answerRemoveOverride target
  | .health => return .word 200 "status" "ok"
  | .ready => do
    if (← get).ready then return .word 200 "status" "ready"
    else return .word 503 "status" "initializing"
  | .metrics => return ⟨200, none⟩

/-- **The answer to a request.** -/
def answer (request : Request) : SiteM Response := do
  let target := Target.read request.target
  match Route.ofSegments? target.segments with
  | none => return .notFound
  | some route =>
    if route.methods.contains request.method then
      let response ← answerRoute request target route
      return if request.method = "HEAD" then { response with body := none } else response
    else return .methodNotAllowed

end Http
end Gradebook
