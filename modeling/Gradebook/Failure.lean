/-
# Failures

Whatever stops the program as a whole: its settings, the setting up of its log, its files, its
courses, its records or a request for grades. A failure has a message and a status as an answer
to a request.
-/

import Gradebook.Grading.Error
import Gradebook.LogFilter
import Gradebook.Settings

namespace Gradebook

inductive Failure where
  | settings (error : SettingsError)
  /-- The log filter of the settings is none. -/
  | logFilter (value : String)
  | logging (reason : String)
  | io (reason : String)
  | server (reason : String)
  | course (error : CourseError)
  | grading (error : GradingError)
  /-- The file of a register cannot be read as one. -/
  | dataset (path reason : String)
deriving DecidableEq

namespace Failure

def message : Failure → String
  | settings error => "configuration error: " ++ error.message
  | logFilter value => "telemetry error: " ++ LogFilter.faultMessage value
  | logging reason => "telemetry error: telemetry error: " ++ reason
  | io reason => "io error: " ++ reason
  | server reason => "server error: " ++ reason
  | course error => "course error: " ++ error.message
  | grading error => "grading error: " ++ error.message
  | dataset path reason => "dataset " ++ path ++ " is invalid: " ++ reason

/-- The status of the answer: not found, bad request or a fault of the service. -/
def status : Failure → Nat
  | grading (.notGradedYet _) => 404
  | grading (.studentNotFound _) => 404
  | course _ => 400
  | grading (.invalidOverride _) => 400
  | _ => 500

end Failure
end Gradebook
