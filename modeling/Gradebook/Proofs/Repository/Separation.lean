/-
# Students are graded apart

What a student gets depends on the student's own records alone: the pipelines of the project, the
flags that the student claimed and the overrides in force for the login. Datasets that agree on
these make dossiers that are alike (`Dataset.AgreeOn.alike`). Alone, a student then has the same
report in both, and in the standings of the group the rows of the student are that report
(`Register.map_rowsOf_standings`), whatever the records of others say.
-/

import Gradebook.Proofs.Grading.Evidence
import Gradebook.Proofs.Grading.Reports
import Gradebook.Proofs.Repository.Batch
import Gradebook.Proofs.Repository.Dataset

namespace Gradebook

/-! ## Rows of a student -/

/-- A summary tells the student. -/
theorem Summary.ofStudent_inj {platform : Platform} {s t : Student} :
    ofStudent platform (Platform.projectName s) s = ofStudent platform (Platform.projectName t) t ↔
      s = t := by
  constructor
  · intro same
    simp only [ofStudent, Summary.mk.injEq] at same
    obtain ⟨login, firstName, lastName, group, retake, -⟩ := same
    cases s
    cases t
    simp_all
  · rintro rfl
    rfl

/-- **The rows of a student in standings.** -/
def Standings.rowsOf (table : Standings) (platform : Platform) (s : Student) : List Report :=
  table.users.filter fun r => r.student = .ofStudent platform (Platform.projectName s) s

/-- Of ranked reports those of a student are the report of the student, once for each time that
the student is listed. -/
theorem filter_rank_eq_replicate {platform : Platform} {report : Student → Report}
    (summary : ∀ s, (report s).student = .ofStudent platform (Platform.projectName s) s)
    (students : List Student) (s : Student) :
    ((rank (students.map report)).filter fun r =>
        r.student = .ofStudent platform (Platform.projectName s) s) =
      List.replicate (students.count s) (report s) := by
  have own : (students.map report).filter (fun r =>
      r.student = .ofStudent platform (Platform.projectName s) s) =
        List.replicate (students.count s) (report s) := by
    rw [List.filter_map, ← List.map_replicate, ← List.filter_eq]
    refine congrArg (List.map report) (List.filter_congr fun t _ => ?_)
    simp only [Function.comp_apply, summary, Summary.ofStudent_inj, eq_comm]
  have ranked : (rank (students.map report)).Perm (students.map report) := List.mergeSort_perm _ _
  exact List.perm_replicate.1 (own ▸ ranked.filter _)

/-! ## The row of a student is the report of the student -/

section

variable {platform : Platform} {catalog : Catalog} {course : Course}

variable (platform) in
theorem graded_of_resolved_eq_ok {resolved : List (Course.Scoring × TaskGroup)}
    (resolves : course.resolved = .ok resolved) (dossier : Dossier) :
    Repository.graded platform course dossier =
      .ok (reportOf course platform dossier resolved) := by
  rw [Repository.graded, gradeStudent_eq_map_resolved, resolves]
  rfl

theorem graded_of_resolved_eq_error {e : CourseError} (fails : course.resolved = .error e)
    (dossier : Dossier) : Repository.graded platform course dossier = .error (.course e) := by
  rw [Repository.graded, gradeStudent_eq_map_resolved, fails]
  rfl

/-- Where no report can be made there are no standings of anyone. -/
theorem Register.tabulate_of_resolved_eq_error (register : Register) {e : CourseError}
    (fails : course.resolved = .error e) (group : String) {students : List Student}
    (someone : students ≠ []) :
    Repository.tabulate platform group course students register.pipelines register.claimedFlags
      register.overrides = .error (.course e) := by
  obtain ⟨first, rest, rfl⟩ := List.exists_cons_of_ne_nil someone
  rw [Repository.tabulate, List.mapM_cons, graded_of_resolved_eq_error fails]
  rfl

variable (platform) in
/-- Where reports can be made the standings of some students are their reports, ranked. -/
theorem Register.tabulate_of_resolved_eq_ok (register : Register)
    {resolved : List (Course.Scoring × TaskGroup)} (resolves : course.resolved = .ok resolved)
    (group : String) (students : List Student) :
    Repository.tabulate platform group course students register.pipelines register.claimedFlags
      register.overrides = .ok {
        group := group
        course := course
        users := rank (students.map fun s =>
          reportOf course platform (register.dossier s) resolved) } := by
  refine register.tabulate_eq_ok_of_forall₂ platform ?_
  exact List.forall₂_map_right_iff.2
    (List.forall₂_same.2 fun s _ => graded_of_resolved_eq_ok platform resolves _)

variable (platform catalog) in
/-- **The rows of a student in the standings of the group** are the report that the student gets
alone, and where there is no report there are no standings. -/
theorem Register.map_rowsOf_standings (register : Register) {s : Student}
    (enrolled : s ∈ register.students) {keeps : Student → Bool} (kept : keeps s = true) :
    (register.standings platform catalog s.group keeps).map (·.rowsOf platform s) =
      (register.report platform catalog s).map (List.replicate (register.students.count s)) := by
  cases known : catalog.course s.group with
  | error e =>
    rw [standings_of_unknown known, report_of_unknown known]
    rfl
  | ok course =>
    rw [standings_of_known known, report_of_known known]
    have listed : ((register.groupStudents s.group).filter keeps).count s =
        register.students.count s := by
      rw [List.count_filter kept, groupStudents, List.count_filter (by simp)]
    cases resolves : course.resolved with
    | error e =>
      have someone : (register.groupStudents s.group).filter keeps ≠ [] := by
        refine List.ne_nil_of_mem (a := s) (List.count_pos_iff.1 ?_)
        rw [listed]
        exact List.count_pos_iff.2 enrolled
      rw [register.tabulate_of_resolved_eq_error resolves _ someone,
        graded_of_resolved_eq_error resolves]
      rfl
    | ok resolved =>
      rw [register.tabulate_of_resolved_eq_ok platform resolves,
        graded_of_resolved_eq_ok platform resolves]
      refine congrArg Except.ok ?_
      rw [← listed]
      exact filter_rank_eq_replicate (fun _ => rfl) _ s

end

/-! ## Datasets that agree on a student -/

/-- **What two datasets agree on** when they have the same records of a student, in any order. -/
structure Dataset.AgreeOn (a b : Dataset) (s : Student) : Prop where
  pipelines : (a.pipelines.filter fun p => p.project = Platform.projectName s).Perm
    (b.pipelines.filter fun p => p.project = Platform.projectName s)
  flags : (a.flags.filter fun f => f.claimedBy = some s.login).Perm
    (b.flags.filter fun f => f.claimedBy = some s.login)
  overrides : ∀ taskId, a.override? s.login taskId = b.override? s.login taskId

namespace Dataset.AgreeOn

variable {a b : Dataset} {s : Student}

/-- **A student has dossiers that are alike** in datasets that agree on the student. -/
theorem alike (agree : a.AgreeOn b s) :
    (a.register.dossier s).Alike (b.register.dossier s) where
  student := rfl
  project := rfl
  signals := by
    refine Evidence.signal?_gather_of_perm ?_ ?_
    · rw [Register.projectPipelines, Register.projectPipelines, pipelines_register,
        pipelines_register]
      exact agree.pipelines
    · rw [Register.studentFlags, Register.studentFlags, flags_register, flags_register]
      exact agree.flags.filter _
  overrides taskId := by
    rw [a.keyed_register.find?_overrides_dossier, b.keyed_register.find?_overrides_dossier,
      override?_register, override?_register, agree.overrides]

theorem report_eq (agree : a.AgreeOn b s) (platform : Platform) (catalog : Catalog) :
    a.register.report platform catalog s = b.register.report platform catalog s := by
  cases known : catalog.course s.group with
  | error e => rw [Register.report_of_unknown known, Register.report_of_unknown known]
  | ok course =>
    rw [Register.report_of_known known, Register.report_of_known known, Repository.graded,
      Repository.graded, gradeStudent_eq_of_alike agree.alike]

end Dataset.AgreeOn

/-! ## One student, alone and among others

The student has a pipeline that waits, one that runs and a flag. In the second dataset they come
in another order, with an override that a later one replaces, and with records of others. -/

namespace Dataset

def repeater : Student := ⟨"login", "First", "Last", "2024", true⟩

def alone : Dataset where
  students := [repeater]
  pipelines :=
    [⟨7, "2024-First-Last-login", "sum", .pending, default⟩,
      ⟨7, "2024-First-Last-login", "sum", .running, default⟩]
  flags := [⟨"flag", "sum", default, some "login"⟩]
  overrides := [⟨"login", "sum", 7, .success⟩]

def amongOthers : Dataset where
  students := [⟨"other", "First", "Last", "2024", false⟩, repeater]
  pipelines :=
    [⟨7, "2024-First-Last-login", "sum", .running, default⟩,
      ⟨1, "2024-First-Last-other", "sum", .success, default⟩,
      ⟨7, "2024-First-Last-login", "sum", .pending, default⟩]
  flags :=
    [⟨"flag", "sum", default, some "other"⟩, ⟨"flag", "sum", default, some "login"⟩,
      ⟨"flag", "sum", default, none⟩]
  overrides :=
    [⟨"login", "sum", 10, .failed⟩, ⟨"login", "sum", 7, .success⟩, ⟨"other", "sum", 0, .banned⟩]

theorem agreeOn_amongOthers : alone.AgreeOn amongOthers repeater where
  pipelines := by decide +kernel
  flags := by decide +kernel
  overrides taskId := by
    simp only [override?, alone, amongOthers, repeater, Override.isFor]
    by_cases same : "sum" = taskId <;> simp [same]

end Dataset

/-! ## Separation -/

namespace Repository

/-- **What others did is no part of what a student gets.** In any two datasets that agree on the
records of a student, whatever else they hold, the student has the same report for every catalog,
or the same error, and in the standings of the group this report is the row of the student, once
for each time that the student is listed. -/
theorem report_and_rows_of_agreeOn (platform : Platform) (catalog : Catalog) {a b : Dataset}
    {s : Student} (enrolledA : s ∈ a.students) (enrolledB : s ∈ b.students)
    (agree : a.AgreeOn b s) {keeps : Student → Bool} (kept : keeps s = true) :
    ∃ given : Except GradingError Report, ∀ d ∈ [a, b],
      (report platform catalog s { register := d.register }).1 = given ∧
        (standings platform catalog s.group keeps { register := d.register }).1.map
          (·.rowsOf platform s) = given.map (List.replicate (d.students.count s)) := by
  have single : ∀ d : Dataset, s ∈ d.students →
      (report platform catalog s { register := d.register }).1 =
          d.register.report platform catalog s ∧
        (standings platform catalog s.group keeps { register := d.register }).1.map
            (·.rowsOf platform s) =
          (d.register.report platform catalog s).map (List.replicate (d.students.count s)) := by
    intro d enrolled
    obtain ⟨log, reported⟩ := gives_report platform catalog s { register := d.register } rfl
    obtain ⟨log, tabulated⟩ := gives_standings platform catalog s.group keeps
      { register := d.register } rfl
    rw [reported, tabulated]
    refine ⟨rfl, ?_⟩
    have rows := d.register.map_rowsOf_standings platform catalog
      (d.students_register.symm ▸ enrolled) kept
    rwa [d.students_register] at rows
  refine ⟨a.register.report platform catalog s, fun d mem => ?_⟩
  rcases List.mem_pair.1 mem with rfl | rfl
  · exact single d enrolledA
  · rw [agree.report_eq platform catalog]
    exact single d enrolledB

theorem report_and_rows_of_agreeOn_amongOthers :
    Dataset.repeater ∈ Dataset.alone.students ∧
      Dataset.repeater ∈ Dataset.amongOthers.students ∧
      Dataset.alone.AgreeOn .amongOthers Dataset.repeater ∧ Dataset.repeater.retake = true ∧
      ∃ given : Except GradingError Report, ∀ d ∈ [Dataset.alone, Dataset.amongOthers],
        (report default .oneTask Dataset.repeater { register := d.register }).1 = given ∧
          (standings default .oneTask "2024" (fun s => s.retake)
            { register := d.register }).1.map (·.rowsOf default Dataset.repeater) =
            given.map (List.replicate (d.students.count Dataset.repeater)) :=
  ⟨by decide, by decide, Dataset.agreeOn_amongOthers, rfl,
    report_and_rows_of_agreeOn default .oneTask (by decide) (by decide)
      Dataset.agreeOn_amongOthers rfl⟩

end Repository
end Gradebook
