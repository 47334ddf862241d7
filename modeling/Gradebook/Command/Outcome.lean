/-
# What commands do

A command works on files and environment variables. Those of its surroundings are asked for
one at a time, so that commands can be run on given texts as well as on a real system.

Standings and scores are those of a service that is started for them alone. A check reads one
course and prints a summary. The service itself is made ready up to the point where it starts
to listen.
-/

import Gradebook.Command.Line
import Gradebook.Decimal.Fixed
import Gradebook.Environment.File
import Gradebook.Failure
import Gradebook.Json.Writing
import Gradebook.MarkSheet
import Gradebook.Register.Json
import Gradebook.Report.Json
import Gradebook.Service

namespace Gradebook

/-- The files and variables that commands work on. -/
structure Surroundings (m : Type → Type) where
  /-- The text of a file, or why there is none. -/
  fileText : String → m (Except String String)
  /-- The value of an environment variable. -/
  lookUp : String → m (Option String)

/-- What comes of a command. -/
inductive Outcome where
  /-- The command has a text to print. -/
  | printed (text : String)
  /-- The service is ready to listen at an address. -/
  | listening (address : String) (service : Service)

namespace Command

/-- The lines of a summary of a course. -/
def summaryLines (path : String) (course : Course) : List String :=
  ["Course: " ++ path, "Task groups: " ++ toString course.taskGroups.length]
    ++ (course.finalDeadline.map fun cutoff => "Final deadline: " ++ cutoff.numericText).toList
    ++ ["Scoring groups:"]
    ++ course.scoringGroups.values.map fun g =>
      "  - " ++ g.name ++ " (policy " ++ g.policy ++ ", weight " ++ g.weight.fixed 1 ++ "): max "
        ++ toString g.maxScore

/-- **A summary of a course.** -/
def summary (path : String) (course : Course) : String :=
  String.join ((summaryLines path course).map (· ++ "\n"))

/-- A document as a text to print. -/
def document (j : Json) : String := j.pretty ++ "\n"

/-- **What is printed for the standings of a group:** a mark sheet or the whole document with
the newest task group first. -/
def standingsText (json : Bool) (standings : Standings) : String :=
  if json then document standings.newestFirst.toJson else MarkSheet.text standings

section

variable {m : Type → Type} [Monad m] (surroundings : Surroundings m)

/-- A result with its error as a failure. -/
def orFail {ε α : Type} (f : ε → Failure) (result : Except ε α) : ExceptT Failure m α :=
  ExceptT.mk (pure (result.mapError f))

/-- The values of given variables. -/
def valuesOf (names : List String) : m Environment := do
  let values ← names.mapM fun name => return (name, ← surroundings.lookUp name)
  return fun name => (values.lookup name).join

/-- The values of the variables of a program, from the surroundings and from a file. -/
def environment : m Environment := do
  let assignments := match ← surroundings.fileText ".env" with
    | .ok text => EnvironmentFile.read text
    | .error _ => []
  let names := Settings.names ++ ["RUST_LOG"] ++ assignments.flatMap (·.names)
  return EnvironmentFile.extend (← valuesOf surroundings names) assignments

/-- The register that is read from a file; without a file there are no records. -/
def loadRegister (path : Option String) : ExceptT Failure m Register := do
  match path with
  | none => return {}
  | some path =>
    match ← surroundings.fileText path with
    | .error reason => throw (.io reason)
    | .ok text =>
      match Register.read text with
      | .ok register => return register
      | .error _ => throw (.dataset path "not a document of records")

/-- **The service of given settings.** -/
def service (settings : Settings) (keeps : Bool) : ExceptT Failure m Service := do
  let catalog ← (Catalog.load surroundings.fileText settings.courses).adapt .course
  let register ← loadRegister surroundings settings.dataset
  return .start settings.platform keeps catalog register

/-- Whether variables have a log filter, or settings where variables have none. -/
def hasLogFilter (values : Environment) (s : Settings) : Bool :=
  (values "RUST_LOG").any LogFilter.isValid || LogFilter.isValid s.logLevel

/-- Makes the service ready to listen. -/
def prepare (host : Option String) (port : Option Nat) : ExceptT Failure m Outcome := do
  let values ← (environment surroundings : m _)
  let s ← orFail .settings (Settings.ofVariables values)
  if !hasLogFilter values s then throw (.logFilter s.logLevel)
  let service ← service surroundings s (s.standingsSeconds ≠ 0)
  let address ← orFail .settings
    (Settings.listenAddress (host.getD s.host) (port.getD s.port))
  return .listening address service

/-- The answer of a service that is started for one request. -/
def ask {α : Type} (request : ServiceM α) : ExceptT Failure m α := do
  let s ← orFail .settings (Settings.ofVariables (← (environment surroundings : m _)))
  let service ← service surroundings s false
  orFail .grading (request.run service).1

/-- Reads a course. -/
def readCourse (path : String) (layout : Course.Layout) : ExceptT Failure m Course := do
  match ← surroundings.fileText path with
  | .error reason => throw (.io reason)
  | .ok text => orFail .course (Course.read layout text)

/-- **Does what a command asks for.** -/
def perform (command : Command) : ExceptT Failure m Outcome :=
  match command with
  | serve host port => prepare surroundings host port
  | standings group retakes json => do
    let issue ← ask surroundings (Service.standings group (if retakes then .retakes else .all))
    return .printed (standingsText json issue.standings)
  | scores login => do
    let report ← ask surroundings (Service.report login)
    return .printed (document report.newestFirst.toJson)
  | checkCourse path layout => do
    return .printed (summary path (← readCourse surroundings path layout))

end

end Command
end Gradebook
