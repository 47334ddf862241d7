/-
# Forms of commands

A form says what the words after a command can be: one argument at most, and options, which
start with two dashes. An option either is given alone or has a value, in the next word or
after an equals sign. After a word of two dashes every word is an argument.

Words are read from the left, and the first that does not fit makes the command invalid, even
if a later word asks for help. An option can be given once. A value in a word of its own does
not start with a dash, unless it is a dash and nothing else.
-/

import Gradebook.Text.Split

namespace Gradebook

/-- An argument of a command. -/
structure Form.Argument where
  name : String
  about : String
  accepts : String → Bool := fun _ => true

/-- An option of a command. -/
structure Form.Choice where
  /-- The name with its two dashes. -/
  name : String
  about : String
  /-- The name of the value, if there is one. -/
  value : Option String := none
  accepts : String → Bool := fun _ => true

structure Form where
  name : String
  about : String
  argument : Option Form.Argument := none
  choices : List Form.Choice := []

namespace Form

/-- The words given for the argument and the options of a form. -/
structure Given where
  argument : Option String := none
  /-- The options with their values; an option without a value has an empty one. -/
  choices : List (String × String) := []

namespace Given

def has (given : Given) (choice : String) : Bool := (given.choices.lookup choice).isSome

def value? (given : Given) (choice : String) : Option String := given.choices.lookup choice

end Given

/-- Why words are no use of a command. -/
inductive Stop where
  | help
  | invalid
deriving DecidableEq

/-- Whether a word is an option or several. -/
def startsOption (word : String) : Bool :=
  match word.toList with
  | '-' :: _ :: _ => true
  | _ => false

/-- The name and the value of an option in one word. -/
def splitValue (word : String) : String × Option String :=
  match Text.splitFirst? '=' word.toList with
  | some (name, value) => (String.ofList name, some (String.ofList value))
  | none => (word, none)

/-- Adds an option with its value. -/
def choose (given : Given) (choice : Choice) (value : String) : Except Stop Given :=
  if given.has choice.name || !choice.accepts value then .error .invalid
  else .ok { given with choices := given.choices ++ [(choice.name, value)] }

variable (form : Form)

/-- Adds the argument. -/
def give (given : Given) (word : String) : Except Stop Given :=
  match form.argument, given.argument with
  | some argument, none =>
    if argument.accepts word then .ok { given with argument := some word } else .error .invalid
  | _, _ => .error .invalid

/-- What a word that starts with a dash stands for: help, or an option and the value in it. -/
def readOption (word : String) : Except Stop (Choice × Option String) :=
  match word.toList with
  | '-' :: '-' :: _ =>
    match splitValue word with
    | ("--help", none) => .error .help
    | (name, value) =>
      match form.choices.find? fun choice => choice.name = name with
      | some choice => .ok (choice, value)
      | none => .error .invalid
  | '-' :: 'h' :: _ => .error .help
  | _ => .error .invalid

/-- Reads words after those already read. -/
def readWords (given : Given) : List String → Except Stop Given
  | [] => .ok given
  | "--" :: rest => rest.foldlM form.give given
  | word :: rest =>
    if startsOption word then
      match form.readOption word with
      | .error stop => .error stop
      | .ok (choice, value) =>
        match choice.value, value, rest with
        | none, none, rest => do readWords (← choose given choice "") rest
        | some _, some value, rest => do readWords (← choose given choice value) rest
        | some _, none, value :: rest =>
          if startsOption value then .error .invalid
          else do readWords (← choose given choice value) rest
        | _, _, _ => .error .invalid
    else do readWords (← form.give given word) rest

/-- **Reads the words after a command.** The argument of the form has to be among them. -/
def read (words : List String) : Except Stop Given := do
  let given ← form.readWords {} words
  if form.argument.isSome && given.argument.isNone then .error .invalid else return given

/-! ## Help -/

/-- A heading with lines of names and what they mean, one below the other. -/
def table (heading : String) (rows : List (String × String)) : String :=
  let width := (rows.map (·.1.length)).foldl max 0
  heading ++ ":\n" ++ String.join (rows.map fun (name, about) =>
    "  " ++ name ++ "".pushn ' ' (width - name.length) ++ "  " ++ about ++ "\n")

/-- A page of help: what a command does, its use, and tables. -/
def page (about usage : String) (tables : List String) : String :=
  about ++ "\n\nUsage: " ++ usage ++ "\n" ++ String.join (tables.map ("\n" ++ ·))

def helpRow : String × String := ("-h, --help", "Print help")

def Argument.row (a : Argument) : String × String := ("<" ++ a.name ++ ">", a.about)

/-- An option in a table leaves room for a short name. -/
def Choice.row (c : Choice) : String × String :=
  ("    " ++ c.name ++ (c.value.map fun value => " <" ++ value ++ ">").getD "", c.about)

/-- **The help for a command of a program.** -/
def help (program : String) : String :=
  let usage := program ++ " " ++ form.name ++ (if form.choices.isEmpty then "" else " [OPTIONS]")
    ++ String.join (form.argument.toList.map fun a => " <" ++ a.name ++ ">")
  page form.about usage
    ((form.argument.toList.map fun a => table "Arguments" [a.row])
      ++ [table "Options" (form.choices.map Choice.row ++ [helpRow])])

end Form
end Gradebook
