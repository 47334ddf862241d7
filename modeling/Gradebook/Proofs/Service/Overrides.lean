/-
# The override that was written last

An override is in force for a task of a student from the request that stores it until another
request stores one for the same task of the same student or takes it away. So it can be told from
the requests alone (`Dataset.overrideAfter`), and the register of a service always has it
(`Service.Served.override?_register`). Reports and standings show it, those that were kept from
earlier requests too, and whatever has expired in between.
-/

import Gradebook.Proofs.Grading.Reports
import Gradebook.Proofs.Repository.Batch
import Gradebook.Proofs.Repository.Dataset
import Gradebook.Proofs.Service.Transparency

namespace Gradebook

open Service

/-! ## Histories -/

/-- **What a request writes** for a task of a student: an override if it stores one, nothing in its
place if it takes it away. A request that is refused writes nothing. -/
def Service.Request.written? (login taskId : String) : Request → Option (Option Override)
  | .setOverride o =>
    if Text.isBlankText o.login || Text.isBlankText o.taskId then none
    else if o.isFor login taskId then some (some o) else none
  | .removeOverride other otherTask =>
    if other = login ∧ otherTask = taskId then some none else none
  | _ => none

/-- **The override in force after requests:** what the last of them wrote that wrote something for
the task of the student, or else what the dataset has. -/
def Dataset.overrideAfter (d : Dataset) (requests : List Request) (login taskId : String) :
    Option Override :=
  (requests.reverse.findSome? fun r => r.written? login taskId).getD (d.override? login taskId)

theorem Dataset.overrideAfter_concat (d : Dataset) (requests : List Request) (request : Request)
    (login taskId : String) :
    d.overrideAfter (requests ++ [request]) login taskId =
      (request.written? login taskId).getD (d.overrideAfter requests login taskId) := by
  rw [overrideAfter, List.reverse_concat, List.findSome?_cons, overrideAfter]
  cases request.written? login taskId <;> rfl

namespace Service

/-- **A service that has served requests,** made one after the other, while standings that it kept
expired at any time. -/
inductive Served (platform : Platform) (catalog : Catalog) (d : Dataset) :
    List Request → Service → Prop
  | start (keeps : Bool) : Served platform catalog d [] (start platform keeps catalog d.register)
  | respond {requests s} (served : Served platform catalog d requests s) (request : Request) :
    Served platform catalog d (requests ++ [request]) (s.respond request).2
  | expire {requests s} (served : Served platform catalog d requests s)
    (gone : StandingsCache.Entry → Bool) : Served platform catalog d requests (s.expire gone)

theorem Coherent.expire {s : Service} (h : s.Coherent) (gone : StandingsCache.Entry → Bool) :
    (s.expire gone).Coherent where
  online := h.online
  known e mem := h.known e (StandingsCache.mem_entries_of_mem_expire mem)
  current e mem := h.current e (StandingsCache.mem_entries_of_mem_expire mem)

/-! ## What a request does to the overrides -/

namespace Ledger

variable {l : Ledger}

/-- A request leaves one override at most for each task of a student. -/
theorem keyed_respond (keyed : l.register.Keyed) (request : Request) :
    (l.respond request).2.register.Keyed := by
  cases request with
  | setOverride o =>
    rw [respond]
    split
    · exact keyed
    · exact keyed.setOverride o
  | removeOverride login taskId => exact keyed.removeOverride login taskId
  | refresh loaded => cases loaded <;> exact keyed
  | _ => exact keyed

/-- **A request changes the overrides that it writes** and no others. -/
theorem override?_respond (l : Ledger) (request : Request) (login taskId : String) :
    (l.respond request).2.register.override? login taskId =
      (request.written? login taskId).getD (l.register.override? login taskId) := by
  cases request with
  | setOverride o =>
    rw [respond, Request.written?]
    split
    · rfl
    · rw [Register.override?_setOverride]
      by_cases same : o.isFor login taskId = true
      · obtain ⟨rfl, rfl⟩ := Override.isFor_iff.1 same
        simp [same]
      · have differs : ¬ (login = o.login ∧ taskId = o.taskId) := by
          rintro ⟨rfl, rfl⟩
          exact same (Override.isFor_iff.2 ⟨rfl, rfl⟩)
        rw [if_neg differs, if_neg same]
        rfl
  | removeOverride other otherTask =>
    rw [respond, Request.written?, Register.override?_removeOverride]
    by_cases same : other = login ∧ otherTask = taskId
    · obtain ⟨rfl, rfl⟩ := same
      simp
    · have differs : ¬ (login = other ∧ taskId = otherTask) := by
        rintro ⟨rfl, rfl⟩
        exact same ⟨rfl, rfl⟩
      rw [if_neg differs, if_neg same]
      rfl
  | refresh loaded => cases loaded <;> rfl
  | _ => rfl

end Ledger

namespace Served

variable {platform : Platform} {catalog : Catalog} {d : Dataset} {requests : List Request}
  {s : Service}

theorem coherent (served : Served platform catalog d requests s) : s.Coherent := by
  induction served with
  | start keeps => exact .start platform keeps catalog d.register
  | respond _ request ih => exact (ih.follows request).coherent
  | expire _ gone ih => exact ih.expire gone

theorem keyed (served : Served platform catalog d requests s) : s.repository.register.Keyed := by
  induction served with
  | start keeps => exact d.keyed_register
  | @respond requests s served request ih =>
    have ledger := (served.coherent.follows request).ledger
    exact (congrArg (fun l => l.register.Keyed) ledger).mpr (Ledger.keyed_respond ih request)
  | expire _ gone ih => exact ih

/-- **The register has the override in force.** -/
theorem override?_register (served : Served platform catalog d requests s)
    (login taskId : String) :
    s.repository.register.override? login taskId = d.overrideAfter requests login taskId := by
  induction served with
  | start keeps => exact d.override?_register login taskId
  | @respond requests s served request ih =>
    have ledger := (served.coherent.follows request).ledger
    have register := congrArg (fun l => l.register.override? login taskId) ledger
    rw [Dataset.overrideAfter_concat, ← ih]
    exact register.trans (s.ledger.override?_respond request login taskId)
  | expire _ gone ih => exact ih

end Served

end Service

/-! ## What reports and standings show -/

namespace Register

variable {register : Register} {platform : Platform} {catalog : Catalog} {course : Course}

/-- A report that is made from a register shows its overrides. -/
theorem Keyed.shows_of_graded_eq_ok (keyed : register.Keyed) {s : Student} {report : Report}
    (made : Repository.graded platform course (register.dossier s) = .ok report) :
    report.student.login = s.login ∧ report.student.group = s.group ∧
      report.Shows course (register.override? s.login) := by
  rw [Repository.graded] at made
  cases graded : gradeStudent course platform (register.dossier s) with
  | error e =>
    rw [graded] at made
    cases made
  | ok own =>
    rw [graded] at made
    cases made
    obtain ⟨shows, summary⟩ := shows_of_gradeStudent_eq_ok graded
    rw [funext (keyed.find?_overrides_dossier s)] at shows
    exact ⟨congrArg Summary.login summary, congrArg Summary.group summary, shows⟩

/-- Where standings come from: the course of the group and a report for every row. -/
theorem exists_graded_of_standings_eq_ok {group : String} {keeps : Student → Bool}
    {table : Standings} (made : register.standings platform catalog group keeps = .ok table) :
    catalog.course group = .ok table.course ∧ ∀ row ∈ table.users, ∃ s,
      Repository.graded platform table.course (register.dossier s) = .ok row := by
  cases known : catalog.course group with
  | error e =>
    rw [standings_of_unknown known] at made
    cases made
  | ok course =>
    rw [standings_of_known known] at made
    obtain ⟨reports, rows, rfl⟩ := Repository.tabulate_eq_ok_iff.1 made
    simp only [dossier_ofRecords] at rows
    refine ⟨rfl, fun row mem => ?_⟩
    have listed : row ∈ reports := (List.mergeSort_perm _ _).mem_iff.1 mem
    obtain ⟨s, -, graded⟩ := exists_eq_ok_of_mem_mapM (mapM_eq_ok_iff.2 rows) listed
    exact ⟨s, graded⟩

end Register

namespace Service

namespace Ledger

variable {l : Ledger}

/-- **A report shows the overrides of the register.** -/
theorem shows_report (keyed : l.register.Keyed) {login : String} {report : Report}
    (given : l.report login = .ok report) :
    report.student.login = login ∧ ∃ course,
      l.live.catalog.find? report.student.group = some course ∧
        report.Shows course (l.register.override? login) := by
  rw [Ledger.report] at given
  cases found : l.register.student? login with
  | none =>
    rw [found] at given
    cases given
  | some student =>
    rw [found] at given
    have same : student.login = login := by
      simpa using List.find?_some found
    cases known : l.live.catalog.course student.group with
    | error e =>
      simp only [Register.report_of_unknown known] at given
      cases given
    | ok course =>
      simp only [Register.report_of_known known] at given
      obtain ⟨login', group', shows⟩ := keyed.shows_of_graded_eq_ok given
      refine ⟨login'.trans same, course, ?_, same ▸ shows⟩
      rw [group']
      exact Catalog.course_eq_ok_iff.1 known

/-- **Every row of standings shows the overrides of the register.** -/
theorem shows_standings (keyed : l.register.Keyed) {group : String} {filter : CohortFilter}
    {table : Standings} (given : l.standings group filter = .ok table) :
    l.live.catalog.find? group = some table.course ∧
      ∀ row ∈ table.users, row.Shows table.course (l.register.override? row.student.login) := by
  obtain ⟨known, rows⟩ := Register.exists_graded_of_standings_eq_ok given
  refine ⟨Catalog.course_eq_ok_iff.1 known, fun row mem => ?_⟩
  obtain ⟨s, graded⟩ := rows row mem
  obtain ⟨login, -, shows⟩ := keyed.shows_of_graded_eq_ok graded
  rw [login]
  exact shows

end Ledger

/-! ## The last write counts -/

/-- **The overrides of a service are those that were written last.** -/
structure LastWritten (d : Dataset) (requests : List Request) (s : Service) : Prop where
  register : ∀ login taskId,
    s.repository.register.override? login taskId = d.overrideAfter requests login taskId
  /-- Taking an override away tells whether there was one. -/
  removed : ∀ login taskId, (s.respond (.removeOverride login taskId)).1 =
    .removed (.ok (d.overrideAfter requests login taskId).isSome)
  stored : ∀ o : Override, ¬ (Text.isBlankText o.login || Text.isBlankText o.taskId) = true →
    (s.respond (.setOverride o)).1 = .stored (.ok ())
  /-- An override that names no student or no task leaves everything as it is. -/
  refused : ∀ o : Override, (Text.isBlankText o.login || Text.isBlankText o.taskId) = true →
    s.respond (.setOverride o) =
      (.stored (.error (.invalidOverride "login and task_id are required")), s)
  report : ∀ login report, (s.respond (.report login)).1 = .report (.ok report) →
    report.student.login = login ∧ ∃ course,
      s.live.catalog.find? report.student.group = some course ∧
        report.Shows course (d.overrideAfter requests login)
  standings : ∀ group filter table,
    (s.respond (.standings group filter)).1 = .standings (.ok table) →
      s.live.catalog.find? group = some table.course ∧
        ∀ row ∈ table.users,
          row.Shows table.course (d.overrideAfter requests row.student.login)

/-- **The override that was written last is in force,** for every task of every student, after any
run of requests and whatever has expired in between: it is the one in the register, and reports and
standings show it, whatever the evidence says. -/
theorem last_written_override (platform : Platform) (catalog : Catalog) (d : Dataset)
    {requests : List Request} {s : Service} (served : Served platform catalog d requests s) :
    LastWritten d requests s := by
  have coherent := served.coherent
  have inForce : ∀ login, s.ledger.register.override? login = d.overrideAfter requests login :=
    fun login => funext (served.override?_register login)
  refine
    { register := served.override?_register
      removed := fun login taskId => ?_
      stored := fun o named => ?_
      refused := fun o blank => ?_
      report := fun login report given => ?_
      standings := fun group filter table given => ?_ }
  · rw [(coherent.follows _).answer, ← served.override?_register]
    rfl
  · rw [respond, setOverride_of_not_blank coherent.online named]
  · rw [respond, setOverride_of_blank blank]
  · rw [(coherent.follows _).answer] at given
    have shown := Ledger.shows_report served.keyed (Answer.report.inj given)
    rwa [inForce] at shown
  · rw [(coherent.follows _).answer] at given
    have shown := Ledger.shows_standings served.keyed (Answer.standings.inj given)
    simp only [inForce] at shown
    exact shown

/-- Two overrides are listed for one task. The standings are worked out and kept, the override in
force is taken away, one that names no task is refused, and what was kept expires. -/
theorem last_written_override_amended :
    let d : Dataset :=
      { students := Register.oneStudent.students
        overrides := [⟨"login", "sum", 3, .failed⟩, ⟨"login", "sum", 7, .success⟩] }
    let requests : List Request :=
      [.standings "2024" .all, .removeOverride "login" "sum",
        .setOverride ⟨"login", " ", 5, .success⟩]
    ∃ s, Served default .oneTask d requests s ∧ d.overrideAfter [] "login" "sum" ≠ none ∧
      d.overrideAfter requests "login" "sum" = none ∧ LastWritten d requests s := by
  intro d requests
  have begun : Served default .oneTask d [] _ := .start true
  have served := (((begun.respond (.standings "2024" .all)).respond
    (.removeOverride "login" "sum")).respond (.setOverride ⟨"login", " ", 5, .success⟩)).expire
      fun _ => true
  exact ⟨_, served, by decide +kernel, by decide +kernel, last_written_override _ _ d served⟩

end Service
end Gradebook
