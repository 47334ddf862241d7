/-
# What a report depends on

Whether there is a report is up to the course alone: grading fails exactly if a task group of the
course does not resolve (`gradeStudent_eq_map_resolved`). What the report says depends on the
dossier only through the student, the project, the signals and the overrides
(`gradeStudent_eq_of_alike`), and an override is shown as it is (`shows_of_gradeStudent_eq_ok`).
-/

import Gradebook.Proofs.Course.Soundness

namespace Gradebook

/-- Functions can be applied to the items of a list after the list was computed. -/
theorem mapM_map_eq {α β γ ε : Type} (f : α → Except ε β) (h : β → γ) (xs : List α) :
    (xs.mapM fun x => (f x).map h) = (xs.mapM f).map (List.map h) := by
  induction xs with
  | nil => rfl
  | cons x xs ih =>
    rw [List.mapM_cons, List.mapM_cons, ih]
    cases f x with
    | error e => rfl
    | ok y =>
      cases xs.mapM f with
      | error e => rfl
      | ok ys => rfl

/-! ## The course decides whether there is a report -/

/-- All task groups with what they resolve to. -/
def Course.resolved (c : Course) : Except CourseError (List (Course.Scoring × TaskGroup)) :=
  c.taskGroups.mapM fun g => (c.resolve g).map fun scoring => (scoring, g)

theorem Course.Sound.exists_resolved_eq_ok {c : Course} (sound : c.Sound) :
    ∃ resolved, c.resolved = .ok resolved := by
  refine exists_mapM_eq_ok fun g mem => ?_
  obtain ⟨scoring, resolve⟩ := sound.resolves g mem
  exact ⟨(scoring, g), by rw [resolve]; rfl⟩

section

variable (course : Course) (platform : Platform) (dossier : Dossier)

/-- The task groups after grading. -/
def scoredGroups (resolved : List (Course.Scoring × TaskGroup)) :
    List (Course.Scoring × GroupResult) :=
  resolved.map fun (scoring, g) => (scoring, gradeGroup course platform dossier scoring g)

/-- The report of a student from task groups that resolve. -/
def reportOf (resolved : List (Course.Scoring × TaskGroup)) : Report :=
  let scored := scoredGroups course platform dossier resolved
  let groups := scored.map (·.2)
  { student := .ofStudent platform dossier.project dossier.student
    groups := groups
    score := total (groups.map (·.score))
    maxScore := total (groups.map (·.maxScore))
    finalMark := scored.foldl addShare Binary64.zero }

/-- **There is a report if and only if all task groups resolve.** -/
theorem gradeStudent_eq_map_resolved :
    gradeStudent course platform dossier =
      course.resolved.map (reportOf course platform dossier) := by
  have step : (fun g => do
      let scoring ← course.resolve g
      return (scoring, gradeGroup course platform dossier scoring g)) =
        fun g => ((course.resolve g).map fun scoring => (scoring, g)).map fun (scoring, g) =>
          (scoring, gradeGroup course platform dossier scoring g) := by
    funext g
    cases course.resolve g <;> rfl
  have scored : (course.taskGroups.mapM fun g => do
      let scoring ← course.resolve g
      return (scoring, gradeGroup course platform dossier scoring g)) =
        course.resolved.map (scoredGroups course platform dossier) := by
    rw [step, mapM_map_eq]
    rfl
  rw [gradeStudent, scored]
  cases course.resolved <;> rfl

end

/-! ## Dossiers that are alike -/

/-- **Dossiers that show the same about a task:** the same signal and override of the same
student. -/
structure Dossier.AgreeOn (a b : Dossier) (taskId : String) : Prop where
  student : a.student = b.student
  project : a.project = b.project
  signals : ∀ alternateProof,
    a.evidence.signal? taskId alternateProof = b.evidence.signal? taskId alternateProof
  override : a.overrides.find? taskId = b.overrides.find? taskId

/-- **Dossiers that show the same:** the same signals and overrides of the same student. -/
structure Dossier.Alike (a b : Dossier) : Prop where
  student : a.student = b.student
  project : a.project = b.project
  signals : ∀ taskId alternateProof,
    a.evidence.signal? taskId alternateProof = b.evidence.signal? taskId alternateProof
  overrides : ∀ taskId, a.overrides.find? taskId = b.overrides.find? taskId

section

variable {course : Course} {platform : Platform} {a b : Dossier}

theorem Dossier.Alike.agreeOn (alike : a.Alike b) (taskId : String) : a.AgreeOn b taskId where
  student := alike.student
  project := alike.project
  signals := alike.signals taskId
  override := alike.overrides taskId

theorem gradeTask_eq_of_agreeOn {t : Task} (agree : a.AgreeOn b t.id) (scoring : Course.Scoring)
    (g : TaskGroup) :
    gradeTask course platform a scoring g t = gradeTask course platform b scoring g t := by
  simp only [gradeTask, pipelineUrl?, agree.signals, agree.student, agree.override, agree.project]

/-- The result of a task group depends on what is shown about its tasks alone. -/
theorem gradeGroup_eq_of_agreeOn {g : TaskGroup} (agree : ∀ t ∈ g.tasks, a.AgreeOn b t.id)
    (scoring : Course.Scoring) :
    gradeGroup course platform a scoring g = gradeGroup course platform b scoring g := by
  have tasks : g.tasks.map (gradeTask course platform a scoring g) =
      g.tasks.map (gradeTask course platform b scoring g) :=
    List.map_congr_left fun t mem => gradeTask_eq_of_agreeOn (agree t mem) scoring g
  rw [gradeGroup, gradeGroup, tasks]

/-- A report depends on what is shown about the tasks of the course alone. -/
theorem reportOf_eq_of_agreeOn {resolved : List (Course.Scoring × TaskGroup)}
    (student : a.student = b.student) (project : a.project = b.project)
    (agree : ∀ row ∈ resolved, ∀ t ∈ row.2.tasks, a.AgreeOn b t.id) :
    reportOf course platform a resolved = reportOf course platform b resolved := by
  have scored : scoredGroups course platform a resolved =
      scoredGroups course platform b resolved := by
    refine List.map_congr_left fun (scoring, g) mem => ?_
    exact congrArg (scoring, ·) (gradeGroup_eq_of_agreeOn (agree _ mem) scoring)
  rw [reportOf, reportOf, scored, student, project]

theorem Dossier.Alike.reportOf_eq (alike : a.Alike b) :
    reportOf course platform a = reportOf course platform b :=
  funext fun _ => reportOf_eq_of_agreeOn alike.student alike.project fun _ _ t _ =>
    alike.agreeOn t.id

/-- **Dossiers that are alike get the same report.** -/
theorem gradeStudent_eq_of_alike (alike : a.Alike b) :
    gradeStudent course platform a = gradeStudent course platform b := by
  rw [gradeStudent_eq_map_resolved, gradeStudent_eq_map_resolved, alike.reportOf_eq]

end

/-! ## Overrides in a report -/

/-- **Whether an entry shows an override.** With one it is marked and has its score and the state
that goes with its verdict, without one it is not marked. -/
def TaskResult.Shows (entry : TaskResult) (override? : Option Override) : Prop :=
  (entry.overridden = true ↔ override?.isSome = true) ∧
    ∀ o, override? = some o → entry.score = o.score ∧ entry.status = .ofVerdict o.verdict

/-- Whether a report has an entry for every task of a course, in their order, each of which shows
the override for the task if there is one. -/
def Report.Shows (r : Report) (course : Course) (override? : String → Option Override) : Prop :=
  List.Forall₂ (fun g result =>
    List.Forall₂ (fun t entry => entry.taskId = t.id ∧ entry.Shows (override? t.id)) g.tasks
      result.tasks) course.taskGroups r.groups

theorem shows_evaluate (terms : TaskTerms) (signal : Option Signal) (retake : Bool)
    (override? : Option Override) : (evaluate terms signal retake override?).Shows override? := by
  cases override? with
  | none => exact ⟨by simp [evaluate], nofun⟩
  | some o =>
    refine ⟨by simp [evaluate], fun other same => ?_⟩
    obtain rfl := Option.some.inj same
    exact ⟨rfl, rfl⟩

theorem taskId_evaluate (terms : TaskTerms) (signal : Option Signal) (retake : Bool)
    (override? : Option Override) :
    (evaluate terms signal retake override?).taskId = terms.task.id := by
  cases override? <;> rfl

theorem shows_gradeGroup (course : Course) (platform : Platform) (dossier : Dossier)
    (scoring : Course.Scoring) (g : TaskGroup) :
    List.Forall₂ (fun t entry => entry.taskId = t.id ∧ entry.Shows (dossier.overrides.find? t.id))
      g.tasks (gradeGroup course platform dossier scoring g).tasks := by
  rw [gradeGroup, List.forall₂_map_right_iff, List.forall₂_same]
  intro t _
  exact ⟨taskId_evaluate (termsOf course scoring g t) .., shows_evaluate ..⟩

/-- **A report shows the overrides of the dossier.** -/
theorem shows_of_gradeStudent_eq_ok {course : Course} {platform : Platform} {dossier : Dossier}
    {report : Report} (made : gradeStudent course platform dossier = .ok report) :
    report.Shows course dossier.overrides.find? ∧
      report.student = .ofStudent platform dossier.project dossier.student := by
  rw [gradeStudent_eq_map_resolved] at made
  cases found : course.resolved with
  | error e =>
    rw [found] at made
    cases made
  | ok resolved =>
    rw [found] at made
    cases made
    refine ⟨?_, rfl⟩
    have rows := mapM_eq_ok_iff.1 found
    rw [Report.Shows, reportOf, scoredGroups, List.map_map, List.forall₂_map_right_iff]
    refine rows.imp fun g (scoring, _) row => ?_
    cases resolves : course.resolve g with
    | error e =>
      rw [resolves] at row
      cases row
    | ok scoring =>
      rw [resolves] at row
      cases row
      exact shows_gradeGroup course platform dossier scoring g

end Gradebook
