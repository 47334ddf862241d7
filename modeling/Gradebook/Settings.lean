/-
# Settings

The settings of the service come from environment variables. A variable that is not set has a
default; one with a value that cannot be read is an error, and the first of these in the order
of the fields below is the one reported.
-/

import Gradebook.Address
import Gradebook.Course.Source
import Gradebook.Decimal.Whole
import Gradebook.Environment
import Gradebook.Platform

namespace Gradebook

/-- The stage that the service runs in. -/
inductive Stage where
  | development
  | test
  | production
deriving DecidableEq, Inhabited

/-- What is wrong with the settings. -/
inductive SettingsError where
  | invalidPort
  | invalidHost
  | invalidNumber (name value : String)
  | invalidCourseEntry (entry : String)
  | unknownCourseLayout (value : String)
  | unknownPlatform (value : String)
deriving DecidableEq

def SettingsError.message : SettingsError → String
  | invalidPort => "APP_PORT must be a valid u16"
  | invalidHost => "APP_HOST must parse to an IPv4 or IPv6 address"
  | invalidNumber name value =>
    name ++ " must be a whole number of seconds, got '" ++ value ++ "'"
  | invalidCourseEntry entry =>
    "GRADER_COURSES entry '" ++ entry ++ "' must look like group=path[:format]"
  | unknownCourseLayout value =>
    "unknown course format '" ++ value ++ "', expected v1, v2 or auto"
  | unknownPlatform value => "GRADER_PLATFORM must be gitlab or gitea, got '" ++ value ++ "'"

structure Settings where
  stage : Stage
  host : String
  port : Nat
  logLevel : String
  courses : List CourseSource
  /-- How often the course documents are read again, in seconds; zero for never. -/
  refreshSeconds : Nat
  /-- How long standings are kept, in seconds. -/
  standingsSeconds : Nat
  platform : Platform
  /-- The path of the records to start with. -/
  dataset : Option String
deriving DecidableEq

namespace Settings

/-- The variables that the settings come from. -/
def names : List String :=
  ["APP_ENV", "APP_HOST", "APP_PORT", "APP_LOG_LEVEL", "GRADER_COURSES",
    "GRADER_COURSE_REFRESH_SECS", "GRADER_STANDINGS_TTL_SECS", "GRADER_PLATFORM",
    "GRADER_PLATFORM_BASE_URL", "GRADER_PLATFORM_NAMESPACE", "GRADER_TASK_URL_PREFIX",
    "GRADER_DATASET"]

/-- In lower case and without blanks at either end. -/
def normalized (s : String) : String :=
  String.ofList ((Text.trimChars s.toList).map Char.toLower)

/-- The stage of a name; any other name stands for development. -/
def stageOf (name : String) : Stage :=
  match normalized name with
  | "prod" | "production" => .production
  | "test" | "ci" => .test
  | _ => .development

def readPort (value : String) : Except SettingsError Nat :=
  match Decimal.readBelow? 65536 value.toList with
  | some port => .ok port
  | none => .error .invalidPort

/-- A number of seconds, or a default. -/
def readSeconds (values : Environment) (name : String) (default : Nat) :
    Except SettingsError Nat :=
  match values name with
  | none => .ok default
  | some value =>
    match Decimal.readBelow? UInt64.size (Text.trimChars value.toList) with
    | some seconds => .ok seconds
    | none => .error (.invalidNumber name value)

def readSources (value : String) : Except SettingsError (List CourseSource) :=
  match CourseSource.readList value with
  | .ok sources => .ok sources
  | .error (.entry text) => .error (.invalidCourseEntry text)
  | .error (.layout name) => .error (.unknownCourseLayout name)

def readPlatformKind (value : String) : Except SettingsError PlatformKind :=
  match normalized value with
  | "gitlab" => .ok .gitlab
  | "gitea" => .ok .gitea
  | other => .error (.unknownPlatform other)

/-- Without the slashes at its end. -/
def withoutSlashes (s : String) : String :=
  String.ofList (s.toList.reverse.dropWhile (· = '/')).reverse

/-- **The settings that variables give.** -/
def ofVariables (values : Environment) : Except SettingsError Settings := do
  let port ← readPort ((values "APP_PORT").getD "3000")
  let courses ← match values "GRADER_COURSES" with
    | some value => readSources value
    | none => pure []
  let refresh ← readSeconds values "GRADER_COURSE_REFRESH_SECS" 60
  let kept ← readSeconds values "GRADER_STANDINGS_TTL_SECS" 10
  let kind ← match values "GRADER_PLATFORM" with
    | some value => readPlatformKind value
    | none => pure .gitlab
  return {
    stage := stageOf ((values "APP_ENV").getD "development")
    host := (values "APP_HOST").getD "127.0.0.1"
    port := port
    logLevel := (values "APP_LOG_LEVEL").getD "info"
    courses := courses
    refreshSeconds := refresh
    standingsSeconds := kept
    platform := {
      kind := kind
      baseUrl :=
        withoutSlashes ((values "GRADER_PLATFORM_BASE_URL").getD "https://gitlab.com")
      namespaceName := (values "GRADER_PLATFORM_NAMESPACE").getD "students"
      taskUrlPrefix := withoutSlashes ((values "GRADER_TASK_URL_PREFIX").getD "") }
    dataset := (values "GRADER_DATASET").filter fun path => !Text.isBlankText path }

/-- **The address to listen at.** The name `localhost` stands for the local address. -/
def listenAddress (host : String) (port : Nat) : Except SettingsError String :=
  if host.toList.map Char.toLower = "localhost".toList then
    .ok ((Address.v4 [127, 0, 0, 1]).withPort port)
  else
    match Address.read? host with
    | some address => .ok (address.withPort port)
    | none => .error .invalidHost

end Settings
end Gradebook
