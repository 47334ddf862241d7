/-
# The command line

The first word names a command; without any word the service is started.
-/

import Gradebook.Command.Form
import Gradebook.Course.Document
import Gradebook.Decimal.Whole

namespace Gradebook

/-- What the program is asked to do. -/
inductive Command where
  /-- Starts the service, at another host or port than the settings say. -/
  | serve (host : Option String) (port : Option Nat)
  | standings (group : String) (retakes json : Bool)
  | scores (login : String)
  | checkCourse (path : String) (layout : Course.Layout)
deriving DecidableEq

namespace Command

/-- A port is a whole number, which may have a sign. -/
def readPort? (word : String) : Option Nat :=
  match word.toList with
  | '-' :: '+' :: _ => none
  | '-' :: digits => Decimal.readBelow? 1 digits
  | digits => Decimal.readBelow? 65536 digits

def serveForm : Form where
  name := "serve"
  about := "Start the HTTP service (default command)"
  choices := [
    { name := "--host"
      about := "Override the configured host for the HTTP server"
      value := some "HOST" },
    { name := "--port"
      about := "Override the configured port for the HTTP server"
      value := some "PORT"
      accepts := fun word => (readPort? word).isSome }]

def standingsForm : Form where
  name := "standings"
  about := "Print the final marks of an enrolled group"
  argument := some { name := "GROUP", about := "Enrolled group to rank" }
  choices := [
    { name := "--retakes", about := "Only include students repeating the course" },
    { name := "--json"
      about := "Print the full standings document instead of a mark sheet" }]

def scoresForm : Form where
  name := "scores"
  about := "Print one student's per-task scores as JSON"
  argument := some { name := "LOGIN", about := "Student login" }

def checkCourseForm : Form where
  name := "check-course"
  about := "Validate a course definition file and summarise its scoring groups"
  argument := some {
    name := "PATH"
    about := "Course definition file to validate"
    accepts := fun word => !word.isEmpty }
  choices := [
    { name := "--format"
      about := "Document layout: v1, v2 or auto [default: auto]"
      value := some "FORMAT"
      accepts := fun word => (Course.Layout.read? word).isSome }]

/-- The command of the words given for its form. -/
def ofGiven (form : Form) (given : Form.Given) : Command :=
  let argument := given.argument.getD ""
  match form.name with
  | "standings" => standings argument (given.has "--retakes") (given.has "--json")
  | "scores" => scores argument
  | "check-course" =>
    checkCourse argument (((given.value? "--format").bind Course.Layout.read?).getD .auto)
  | _ => serve (given.value? "--host") ((given.value? "--port").bind readPort?)

end Command

/-- What a command line asks for. -/
inductive Invocation where
  | run (command : Command)
  /-- A text to print. -/
  | print (text : String)
  | invalid
deriving DecidableEq

namespace Invocation

def program : String := "cohort-grader"

def forms : List Form :=
  [Command.serveForm, Command.standingsForm, Command.scoresForm, Command.checkCourseForm]

def helpAbout : String := "Print this message or the help of the given subcommand(s)"

/-- The help for the program. -/
def help : String :=
  Form.page "Serve and inspect course scores and cohort standings" (program ++ " [COMMAND]")
    [Form.table "Commands"
        (forms.map (fun form => (form.name, form.about)) ++ [("help", helpAbout)]),
      Form.table "Options" [Form.helpRow, ("-V, --version", "Print version")]]

/-- The help for asking for help. -/
def helpHelp : String :=
  Form.page helpAbout (program ++ " help [COMMAND]...")
    [Form.table "Arguments" [("[COMMAND]...", "Print help for the subcommand(s)")]]

def version : String := "Cohort Grader 0.1.0\n"

def form? (name : String) : Option Form := forms.find? fun form => form.name = name

/-- The help that the words after `help` ask for. -/
def readHelp : List String → Invocation
  | [] => print help
  | ["help"] => print helpHelp
  | [name] =>
    match form? name with
    | some form => print (form.help program)
    | none => invalid
  | _ => invalid

/-- An option in place of a command. -/
def readOption (word : String) : Invocation :=
  match word.toList with
  | '-' :: '-' :: _ =>
    if word = "--help" then print help else if word = "--version" then print version else invalid
  | '-' :: 'h' :: _ => print help
  | '-' :: 'V' :: _ => print version
  | _ => invalid

/-- **Reads a command line.** -/
def read : List String → Invocation
  | [] => run (.serve none none)
  | ["--"] => run (.serve none none)
  | "help" :: rest => readHelp rest
  | word :: rest =>
    match form? word with
    | none => readOption word
    | some form =>
      match form.read rest with
      | .ok given => run (.ofGiven form given)
      | .error .help => print (form.help program)
      | .error .invalid => invalid

end Invocation
end Gradebook
