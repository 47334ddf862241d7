/-
# Grading

`evaluate` gives the outcome of one task, in this order of rules:

1. without a successful signal the score is zero;
2. so it is if the signal came after the final deadline of the course;
3. else the policy of the task group awards the score;
4. a student who retakes the course gets at least a fixed share of the nominal score;
5. an override sets score and status whatever came before.

`gradeStudent` applies it to every task of a course. The final mark is the sum over the task
groups of the weight of the scoring group times the score, divided by the greatest score of the
scoring group, where that is not zero.
-/

import Gradebook.Course.Build
import Gradebook.Report
import Gradebook.Title

namespace Gradebook

/-- What decides about the outcome of a task besides the evidence. -/
structure TaskTerms where
  task : Task
  policy : Policy
  deadline : LocalInstant
  finalDeadline : Option LocalInstant
  retakeRatio : Binary64

namespace TaskTerms

/-- Whether an instant lies after the final deadline, if there is one. -/
def isPastCutoff (terms : TaskTerms) (submitted : Instant) : Bool :=
  match terms.finalDeadline with
  | some cutoff => cutoff.instant.lt submitted
  | none => false

/-- The score that a signal earns by itself. -/
def earned (terms : TaskTerms) (signal : Option Signal) : Score :=
  match signal with
  | some signal =>
    if signal.status = .success && !terms.isPastCutoff signal.submittedAt then
      terms.policy.award terms.task.nominalScore terms.deadline.instant signal.submittedAt
    else 0
  | none => 0

/-- The least score of a student who retakes the course. -/
def retakeFloor (terms : TaskTerms) : Score := terms.task.nominalScore.scale terms.retakeRatio

/-- The score before overrides. -/
def score (terms : TaskTerms) (signal : Option Signal) (retake : Bool) : Score :=
  if retake then max (terms.earned signal) terms.retakeFloor else terms.earned signal

end TaskTerms

/-- **The outcome of a task,** without links. -/
def evaluate (terms : TaskTerms) (signal : Option Signal) (retake : Bool)
    (override : Option Override) : TaskResult :=
  let graded : TaskResult :=
    { taskId := terms.task.id
      status := (signal.map (·.status)).getD .assigned
      score := terms.score signal retake
      maxScore := terms.task.nominalScore
      overridden := false
      submittedAt := signal.map (·.submittedAt) }
  match override with
  | some record =>
    { graded with score := record.score, status := .ofVerdict record.verdict, overridden := true }
  | none => graded

/-- A student with all the evidence on record. -/
structure Dossier where
  student : Student
  project : String
  evidence : Evidence
  /-- The overrides of the student by task. -/
  overrides : NameMap Override

/-- Overrides by task; of several for one task the last counts. -/
def overridesByTask (records : List Override) : NameMap Override :=
  .ofList (records.map fun o => (o.taskId, o))

section

variable (course : Course) (platform : Platform) (dossier : Dossier)

def termsOf (scoring : Course.Scoring) (g : TaskGroup) (t : Task) : TaskTerms where
  task := t
  policy := scoring.policy
  deadline := g.deadline
  finalDeadline := course.finalDeadline
  retakeRatio := course.retakeRatio

/-- The link to the pipeline that a signal comes from. -/
def pipelineUrl? (signal : Option Signal) : Option String :=
  signal.bind fun s =>
    match s.origin with
    | .pipeline id => some (platform.pipelineUrl dossier.project id)
    | .flag _ => none

def gradeTask (scoring : Course.Scoring) (g : TaskGroup) (t : Task) : TaskResult :=
  let signal := dossier.evidence.signal? t.id t.alternateProof
  { evaluate (termsOf course scoring g t) signal dossier.student.retake
      (dossier.overrides.find? t.id) with
    taskUrl := platform.taskUrl? t.id
    branchUrl := some (platform.branchUrl dossier.project t.id)
    pipelineUrl := pipelineUrl? platform dossier signal }

def gradeGroup (scoring : Course.Scoring) (g : TaskGroup) : GroupResult :=
  let tasks := g.tasks.map (gradeTask course platform dossier scoring g)
  { title := g.title
    prettyTitle := Title.pretty g.title
    scoringGroup := scoring.group.name
    deadline := g.deadline
    tasks := tasks
    score := total (tasks.map fun t => t.score.toNat)
    maxScore := total (tasks.map fun t => t.maxScore.toNat) }

/-- Adds the share of a task group to a mark. -/
def addShare (mark : Binary64) (scored : Course.Scoring × GroupResult) : Binary64 :=
  let (scoring, result) := scored
  if scoring.group.maxScore = 0 then mark
  else
    mark + scoring.group.weight * Binary64.ofNat result.score
      / Binary64.ofNat scoring.group.maxScore

/-- **The report of a student.** -/
def gradeStudent : Except CourseError Report := do
  let scored ← course.taskGroups.mapM fun g => do
    let scoring ← course.resolve g
    return (scoring, gradeGroup course platform dossier scoring g)
  let groups := scored.map (·.2)
  return {
    student := .ofStudent platform dossier.project dossier.student
    groups := groups
    score := total (groups.map (·.score))
    maxScore := total (groups.map (·.maxScore))
    finalMark := scored.foldl addShare Binary64.zero }

end

end Gradebook
