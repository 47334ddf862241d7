/-
# A cohort is graded like its students one by one

The standings of a group are worked out from all records at once, sorted by what they belong to.
Filing records one after the other leaves under each name the records of that name, in the order
in which they came (`Cohort.getD_find?_foldl`). So a student has the same dossier in the cohort as
alone (`Register.dossier_ofRecords`), and the rows of the standings are the reports of the
students, ranked.
-/

import Gradebook.Proofs.Course.Soundness
import Gradebook.Proofs.Repository.Answers

namespace Gradebook

/-! ## Filing -/

namespace Cohort

/-- **What is filed under a name** when each record is filed under its key, if it has one. -/
theorem getD_find?_foldl {α : Type} (key : α → Option String)
    (step : NameMap (List α) → α → NameMap (List α))
    (files : ∀ m record, step m record =
      match key record with
      | some name => file m name record
      | none => m)
    (records : List α) (m : NameMap (List α)) (name : String) :
    ((records.foldl step m).find? name).getD [] =
      (m.find? name).getD [] ++ records.filter fun record => key record = some name := by
  induction records generalizing m with
  | nil => simp
  | cons record rest ih =>
    rw [List.foldl_cons, ih, files]
    cases found : key record with
    | none => simp [found]
    | some other =>
      by_cases same : name = other
      · simp [file, found, same]
      · simp [file, found, same, Ne.symm same, NameMap.find?_insert]

variable (pipelines : List Pipeline) (flags : List Flag) (overrides : List Override)

theorem getD_find?_pipelines (project : String) :
    ((ofRecords pipelines flags overrides).pipelines.find? project).getD [] =
      pipelines.filter fun p => p.project = project := by
  have filed := getD_find?_foldl (fun p : Pipeline => some p.project) _ (fun _ _ => rfl) pipelines
    .empty project
  simpa [ofRecords] using filed

theorem getD_find?_flags (login : String) :
    ((ofRecords pipelines flags overrides).flags.find? login).getD [] =
      flags.filter fun f => f.claimedBy = some login := by
  have filed := getD_find?_foldl Flag.claimedBy fileFlag (fun _ _ => rfl) flags .empty login
  simpa [ofRecords] using filed

theorem getD_find?_overrides (login : String) :
    ((ofRecords pipelines flags overrides).overrides.find? login).getD [] =
      overrides.filter fun o => o.login = login := by
  have filed := getD_find?_foldl (fun o : Override => some o.login) _ (fun _ _ => rfl) overrides
    .empty login
  simpa [ofRecords] using filed

end Cohort

/-! ## Dossiers -/

namespace Register

variable (register : Register)

theorem filter_claimedFlags (login : String) :
    (register.claimedFlags.filter fun f => f.claimedBy = some login) =
      register.studentFlags login := by
  rw [claimedFlags, studentFlags, List.filter_filter]
  refine List.filter_congr fun f _ => ?_
  cases f.claimedBy <;> simp

/-- **A student has the same dossier in the cohort as alone.** -/
theorem dossier_ofRecords (s : Student) :
    (Cohort.ofRecords register.pipelines register.claimedFlags register.overrides).dossier s =
      register.dossier s := by
  have overrides : ((Cohort.ofRecords register.pipelines register.claimedFlags
      register.overrides).overrides? s.login).getD .empty =
        overridesByTask (register.studentOverrides s.login) := by
    rw [studentOverrides, ← Cohort.getD_find?_overrides register.pipelines register.claimedFlags,
      Cohort.overrides?]
    cases (Cohort.ofRecords register.pipelines register.claimedFlags
      register.overrides).overrides.find? s.login <;> rfl
  have twice : (register.studentOverrides s.login).filter (fun o => o.login = s.login) =
      register.studentOverrides s.login := by
    simp [studentOverrides]
  rw [dossier, twice, ← overrides, Cohort.dossier, Cohort.evidence, Cohort.getD_find?_pipelines,
    Cohort.getD_find?_flags, filter_claimedFlags]
  rfl

end Register

/-! ## Standings -/

/-- **Standings are tabulated** by working out the reports of the students and ranking them. -/
theorem Repository.tabulate_eq_ok_iff {platform : Platform} {group : String} {course : Course}
    {students : List Student} {pipelines : List Pipeline} {flags : List Flag}
    {overrides : List Override} {table : Standings} :
    tabulate platform group course students pipelines flags overrides = .ok table ↔
      ∃ reports, List.Forall₂
        (fun s r => graded platform course
          ((Cohort.ofRecords pipelines flags overrides).dossier s) = .ok r) students reports ∧
        table = { group := group, course := course, users := rank reports } := by
  rw [tabulate]
  constructor
  · intro tabulated
    cases worked : students.mapM fun s =>
        graded platform course ((Cohort.ofRecords pipelines flags overrides).dossier s) with
    | error e =>
      rw [worked] at tabulated
      cases tabulated
    | ok reports =>
      rw [worked] at tabulated
      cases tabulated
      exact ⟨reports, mapM_eq_ok_iff.1 worked, rfl⟩
  · rintro ⟨reports, rows, rfl⟩
    rw [mapM_eq_ok_iff.2 rows]
    rfl

namespace Register

variable (register : Register) (platform : Platform) (catalog : Catalog)

theorem tabulate_eq_ok_of_forall₂ {group : String} {course : Course} {students : List Student}
    {reports : List Report}
    (rows : List.Forall₂
      (fun s report => Repository.graded platform course (register.dossier s) = .ok report)
      students reports) :
    Repository.tabulate platform group course students register.pipelines register.claimedFlags
        register.overrides = .ok { group := group, course := course, users := rank reports } := by
  simp only [← dossier_ofRecords] at rows
  exact Repository.tabulate_eq_ok_iff.2 ⟨reports, rows, rfl⟩

theorem exists_graded_eq_ok {course : Course} (sound : course.Sound) (dossier : Dossier) :
    ∃ report, Repository.graded platform course dossier = .ok report := by
  obtain ⟨report, made⟩ := sound.grades platform dossier
  exact ⟨report, by rw [Repository.graded, made]; rfl⟩

variable {catalog}

/-- **The standings of a group with a sound course** are the reports of its students, ranked. -/
theorem exists_standings_eq_ok {group : String} {course : Course}
    (published : catalog.find? group = some course) (sound : course.Sound)
    (keeps : Student → Bool) :
    ∃ reports,
      List.Forall₂ (fun s report => register.report platform catalog s = .ok report)
        ((register.groupStudents group).filter keeps) reports ∧
      register.standings platform catalog group keeps =
        .ok { group := group, course := course, users := rank reports } := by
  have graded : ∀ s ∈ (register.groupStudents group).filter keeps, ∃ report,
      Repository.graded platform course (register.dossier s) = .ok report :=
    fun s _ => exists_graded_eq_ok platform sound (register.dossier s)
  obtain ⟨reports, made⟩ := exists_mapM_eq_ok graded
  have rows := mapM_eq_ok_iff.1 made
  have members : ∀ s ∈ (register.groupStudents group).filter keeps, s.group = group := by
    intro s mem
    simpa [groupStudents] using (List.mem_filter.1 (List.mem_filter.1 mem).1).2
  have known := Catalog.course_eq_ok_iff.2 published
  refine ⟨reports, ?_, ?_⟩
  · refine ((List.forall₂_and_left _ _).2 ⟨members, rows⟩).imp fun s report ⟨member, graded⟩ => ?_
    rw [report_of_known (member ▸ known), graded]
  · rw [standings_of_known known]
    exact register.tabulate_eq_ok_of_forall₂ platform rows

end Register

/-! ## Small cohorts -/

/-- A catalog with the course of one task. -/
def Catalog.oneTask : Catalog := NameMap.empty.insert "2024" .oneTask

/-- A register of one student who takes the course again. -/
def Register.oneStudent : Register where
  students := [⟨"login", "First", "Last", "2024", true⟩]

theorem Catalog.find?_oneTask : Catalog.oneTask.find? "2024" = some .oneTask :=
  NameMap.find?_insert_self ..

/-- A catalog with the course of two task groups. -/
def Catalog.twoGroups : Catalog := NameMap.empty.insert "2024" .twoGroups

theorem Catalog.find?_twoGroups : Catalog.twoGroups.find? "2024" = some .twoGroups :=
  NameMap.find?_insert_self ..

/-- A register of five students. The names and logins of two differ in marks alone, so they share a
project. One has no records, one takes the course for the first time, and one is in another group.
A pipeline and a flag are listed twice, and so are overrides for a task; another flag nobody
claimed. -/
def Register.sharedProject : Register where
  students :=
    [⟨"obrien___", "AnnaMaria", "OBrien", "2024", true⟩, ⟨"idle", "First", "Last", "2024", true⟩,
      ⟨"o__brien_", "Anna-Maria", "O'Brien", "2024", true⟩,
      ⟨"fresh", "First", "Last", "2024", false⟩, ⟨"moved", "First", "Last", "2023", true⟩]
  pipelines :=
    [⟨7, "2024-AnnaMaria-OBrien-obrien_", "sum", .success, default⟩,
      ⟨9, "2024-First-Last-fresh", "prime", .success, default⟩,
      ⟨7, "2024-AnnaMaria-OBrien-obrien_", "sum", .success, default⟩]
  flags :=
    [⟨"b", "max", default, some "obrien___"⟩, ⟨"a", "max", default, none⟩,
      ⟨"b", "max", default, some "obrien___"⟩]
  overrides := [⟨"o__brien_", "sum", 2, .failed⟩, ⟨"o__brien_", "sum", 3, .failed⟩]

/-! ## Batch and single -/

namespace Repository

/-- **The standings of a group are the reports of its students.** For every register, every
course that was built and every choice of students, the standings are there, and their rows are
the reports that the students get one by one, each once and in the order of rank. -/
theorem standings_perm_reports (platform : Platform) {catalog : Catalog} {group : String}
    {parts : Course.Parts} {course : Course} (built : Course.build parts = .ok course)
    (published : catalog.find? group = some course) (register : Register) (log : List Access)
    (keeps : Student → Bool) :
    ∃ (table : Standings) (reports : List Report),
      (standings platform catalog group keeps { register := register, log := log }).1 =
        .ok table ∧
      List.Forall₂
        (fun s r => (report platform catalog s { register := register, log := log }).1 = .ok r)
        (register.students.filter fun s => s.group = group && keeps s) reports ∧
      table.users.Perm reports := by
  have online : Online { register := register, log := log } := rfl
  obtain ⟨reports, rows, made⟩ := register.exists_standings_eq_ok platform published
    (Course.sound_of_build_eq_ok built) keeps
  obtain ⟨after, run⟩ := gives_standings platform catalog group keeps _ online
  refine ⟨_, reports, by rw [run]; exact made, ?_, List.mergeSort_perm _ _⟩
  rw [Register.groupStudents, List.filter_filter] at rows
  have same : (fun s : Student => keeps s && decide (s.group = group)) =
      fun s => decide (s.group = group) && keeps s := by
    funext s
    exact Bool.and_comm _ _
  rw [← same]
  refine rows.imp fun s r given => ?_
  obtain ⟨after, run⟩ := gives_report platform catalog s _ online
  rw [run]
  exact given

theorem standings_perm_reports_sharedProject :
    Course.build .twoGroups = .ok .twoGroups ∧ Catalog.twoGroups.find? "2024" = some .twoGroups ∧
      ∃ (table : Standings) (reports : List Report),
        (standings default .twoGroups "2024" (fun s => s.retake)
          { register := .sharedProject, log := [] }).1 = .ok table ∧
        List.Forall₂
          (fun s r =>
            (report default .twoGroups s { register := .sharedProject, log := [] }).1 = .ok r)
          (Register.sharedProject.students.filter fun s => s.group = "2024" && s.retake) reports ∧
        table.users.Perm reports :=
  ⟨Course.build_twoGroups, Catalog.find?_twoGroups, standings_perm_reports default
    Course.build_twoGroups Catalog.find?_twoGroups .sharedProject [] fun s => s.retake⟩

/-- Of the two with one project one claimed a flag, and the other has overrides, of which the last
one counts. -/
example : (Register.sharedProject.students.filter fun s => s.group = "2024" && s.retake).map
    (fun s => (report default .twoGroups s { register := .sharedProject }).1.map (·.score)) =
      [.ok 15, .ok 0, .ok 3] := by
  decide +kernel

end Repository
end Gradebook
