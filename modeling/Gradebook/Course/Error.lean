/-
# Why there is no course

The errors of reading a course document and of putting a course together.
-/

import Gradebook.Policy

namespace Gradebook

inductive CourseError where
  /-- The text is not a course document at all. -/
  | malformed (reason : String)
  | invalidDate (value : String)
  | invalidDuration (value : String)
  | invalidTimezone (value : String)
  | unknownPolicyKind (policy kind : String)
  | invalidPolicy (policy reason : String)
  | invalidRetakeRatio (value : Binary64)
  | unknownScoringGroup (taskGroup scoringGroup : String)
  | unknownPolicy (scoringGroup policy : String)
  | duplicateTask (task : String)
  | unreadable (path reason : String)
  /-- The course of one group of students has an error. -/
  | inGroup (group : String) (source : CourseError)
deriving DecidableEq

namespace CourseError

def message : CourseError → String
  | malformed reason => "malformed course definition: " ++ reason
  | invalidDate value =>
    "invalid date '" ++ value ++ "', expected DD-MM-YYYY HH:MM or RFC 3339"
  | invalidDuration value =>
    "invalid duration '" ++ value ++ "', expected values like 5d, 120h or 1h30m"
  | invalidTimezone value =>
    "invalid timezone '" ++ value ++ "', expected an offset like +03:00"
  | unknownPolicyKind policy kind =>
    "scoring policy '" ++ policy ++ "' has unknown kind '" ++ kind ++ "'"
  | invalidPolicy policy reason => "scoring policy '" ++ policy ++ "' is invalid: " ++ reason
  | invalidRetakeRatio value =>
    "retake penalty ratio " ++ value.text .plain ++ " must be a non-negative number"
  | unknownScoringGroup taskGroup scoringGroup =>
    "task group '" ++ taskGroup ++ "' references unknown scoring group '" ++ scoringGroup ++ "'"
  | unknownPolicy scoringGroup policy =>
    "scoring group '" ++ scoringGroup ++ "' references unknown policy '" ++ policy ++ "'"
  | duplicateTask task => "task '" ++ task ++ "' is defined more than once"
  | unreadable path reason => "failed to read course definition " ++ path ++ ": " ++ reason
  | inGroup group source =>
    "course definition for group '" ++ group ++ "': " ++ source.message

end CourseError
end Gradebook
