/-
# Why grading fails

Grading can fail for want of a course or of a student, because a correction by hand is
incomplete, because the course has an error, or because the records cannot be had.
-/

import Gradebook.Course.Error

namespace Gradebook

inductive GradingError where
  /-- A group of students has no course. -/
  | notGradedYet (group : String)
  | studentNotFound (login : String)
  | invalidOverride (reason : String)
  | course (error : CourseError)
  /-- The repository of the records did not answer. -/
  | unavailable (reason : String)
deriving DecidableEq

def GradingError.message : GradingError → String
  | notGradedYet group => "no course definition published for group '" ++ group ++ "' yet"
  | studentNotFound login => "student '" ++ login ++ "' not found"
  | invalidOverride reason => "invalid override: " ++ reason
  | course error => error.message
  | unavailable reason => "repository unavailable: " ++ reason

end Gradebook
