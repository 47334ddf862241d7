/-
# Rows and columns of standings

Standings come with the course that they were worked out for, and the results of a student follow
its task groups one by one (`Report.AlignedWith`). The course and the results are put there apart:
the one is found in the catalog, the others are made by grading, which goes through the task groups
of a course and the tasks of each. So it is for every query that succeeds, whatever the repository
is like (`Repository.exists_tabulate_of_standings_eq_ok`).

The view with the newest task groups first turns both around, the course and the results of every
student, and a relation row by row does not mind the direction (`List.forall₂_reverse_iff`). The
order of the students depends on marks and names alone, which the view keeps (`rank_newestFirst`).
-/

import Gradebook.Proofs.Grading.Ranking
import Gradebook.Proofs.Grading.Totals
import Gradebook.Proofs.Repository.Separation

namespace Gradebook

variable {platform : Platform} {c : Course}

/-! ## Alignment -/

/-- **An entry that stands for a task** of a project. -/
structure TaskResult.StandsFor (platform : Platform) (project : String) (t : Task)
    (entry : TaskResult) : Prop where
  taskId : entry.taskId = t.id
  maxScore : entry.maxScore = t.nominalScore
  taskUrl : entry.taskUrl = platform.taskUrl? t.id
  branchUrl : entry.branchUrl = some (platform.branchUrl project t.id)

/-- **A result that stands for a task group** of a course, with an entry for each of its tasks in
their order. -/
structure GroupResult.StandsFor (platform : Platform) (project : String) (c : Course)
    (g : TaskGroup) (result : GroupResult) : Prop where
  title : result.title = g.title
  deadline : result.deadline = g.deadline
  scoringGroup : ∃ scoring, c.resolve g = .ok scoring ∧ result.scoringGroup = scoring.group.name
  tasks : List.Forall₂ (TaskResult.StandsFor platform project) g.tasks result.tasks

/-- **A report that is aligned with a course:** a result for each of its task groups in their
order. -/
def Report.AlignedWith (platform : Platform) (c : Course) (r : Report) : Prop :=
  List.Forall₂ (GroupResult.StandsFor platform r.student.project c) c.taskGroups r.groups

/-- **Standings that are aligned** with the course that comes with them. -/
def Standings.Aligned (platform : Platform) (s : Standings) : Prop :=
  ∀ r ∈ s.users, r.AlignedWith platform s.course

/-! ## Grading -/

section

variable (platform) (dossier : Dossier)

theorem standsFor_gradeTask (scoring : Course.Scoring) (g : TaskGroup) (t : Task) :
    (gradeTask c platform dossier scoring g t).StandsFor platform dossier.project t where
  taskId := taskId_gradeTask ..
  maxScore := maxScore_gradeTask ..
  taskUrl := rfl
  branchUrl := rfl

theorem standsFor_gradeGroup {scoring : Course.Scoring} {g : TaskGroup}
    (resolves : c.resolve g = .ok scoring) :
    (gradeGroup c platform dossier scoring g).StandsFor platform dossier.project c g where
  title := rfl
  deadline := rfl
  scoringGroup := ⟨scoring, resolves, rfl⟩
  tasks := by
    rw [gradeGroup, List.forall₂_map_right_iff, List.forall₂_same]
    exact fun t _ => standsFor_gradeTask platform dossier scoring g t

/-- **A report is aligned with the course** that it is worked out for. -/
theorem alignedWith_reportOf {resolved : List (Course.Scoring × TaskGroup)}
    (resolves : c.resolved = .ok resolved) :
    (reportOf c platform dossier resolved).AlignedWith platform c := by
  rw [Report.AlignedWith, groups_reportOf, ← Course.map_snd_of_resolved_eq_ok resolves,
    List.forall₂_map_left_iff, List.forall₂_map_right_iff, List.forall₂_same]
  intro row mem
  exact standsFor_gradeGroup platform dossier (Course.resolve_of_mem_resolved resolves mem).2

theorem alignedWith_of_graded_eq_ok {r : Report}
    (graded : Repository.graded platform c dossier = .ok r) : r.AlignedWith platform c := by
  cases resolves : c.resolved with
  | error e =>
    rw [graded_of_resolved_eq_error resolves] at graded
    cases graded
  | ok resolved =>
    rw [graded_of_resolved_eq_ok platform resolves] at graded
    cases graded
    exact alignedWith_reportOf platform dossier resolves

end

/-! ## The newest task groups first -/

/-- **A report with its task groups the other way round** and nothing else in it different, no
result of a task group and no total. -/
structure Report.TurnsInto (r view : Report) : Prop where
  student : view.student = r.student
  groups : view.groups = r.groups.reverse
  score : view.score = r.score
  maxScore : view.maxScore = r.maxScore
  finalMark : view.finalMark = r.finalMark

/-- **Standings with all task groups the other way round,** those of the course and those of every
student, and every student in the place that the student had. -/
structure Standings.TurnsInto (s view : Standings) : Prop where
  group : view.group = s.group
  course : view.course = { s.course with taskGroups := s.course.taskGroups.reverse }
  users : List.Forall₂ Report.TurnsInto s.users view.users

theorem Standings.turnsInto_newestFirst (s : Standings) : s.TurnsInto s.newestFirst where
  group := rfl
  course := rfl
  users := by
    rw [newestFirst, List.forall₂_map_right_iff, List.forall₂_same]
    exact fun r _ => ⟨rfl, rfl, rfl, rfl, rfl⟩

/-- Turned around twice a list is as it was. -/
theorem Standings.newestFirst_newestFirst (s : Standings) : s.newestFirst.newestFirst = s := by
  have users : (s.users.map Report.newestFirst).map Report.newestFirst = s.users := by
    rw [List.map_map]
    refine (List.map_congr_left fun r _ => ?_).trans (List.map_id _)
    simp [Report.newestFirst]
  simp [newestFirst, Course.newestFirst, users]

/-- **Turning both around** keeps them aligned: what a task group resolves to does not depend on the
order of the task groups. -/
theorem Report.AlignedWith.newestFirst {r : Report} (aligned : r.AlignedWith platform c) :
    r.newestFirst.AlignedWith platform c.newestFirst :=
  (List.forall₂_reverse_iff.2 aligned).imp fun _ _ stands =>
    ⟨stands.title, stands.deadline, stands.scoringGroup, stands.tasks⟩

theorem Standings.Aligned.newestFirst {s : Standings} (aligned : s.Aligned platform) :
    s.newestFirst.Aligned platform := by
  intro view mem
  obtain ⟨r, memR, rfl⟩ := List.mem_map.1 mem
  exact (aligned r memR).newestFirst

/-- **The view is ranked** if the standings are. -/
theorem rank_newestFirst (reports : List Report) :
    rank (reports.map Report.newestFirst) = (rank reports).map Report.newestFirst := by
  rw [rank, rank]
  refine (List.map_mergeSort fun a _ b _ => ?_).symm
  -- Neither the mark nor the name is different in the view.
  rfl

theorem rank_rank (reports : List Report) : rank (rank reports) = rank reports :=
  List.mergeSort_of_pairwise (pairwise_rank reports)

/-! ## Queries -/

namespace Repository

variable {catalog : Catalog} {group : String} {keeps : Student → Bool} {repository : Repository}
  {table : Standings}

/-- **Standings that a query gives** are tabulated for the course of the group, from whatever the
accesses gave. -/
theorem exists_tabulate_of_standings_eq_ok
    (computed : (standings platform catalog group keeps repository).1 = .ok table) :
    ∃ course students pipelines flags overrides, catalog.course group = .ok course ∧
      tabulate platform group course students pipelines flags overrides = .ok table := by
  obtain ⟨course, _, known, computed⟩ := exists_of_bind_eq_ok computed
  obtain ⟨students, _, -, computed⟩ := exists_of_bind_eq_ok computed
  obtain ⟨pipelines, _, -, computed⟩ := exists_of_bind_eq_ok computed
  obtain ⟨flags, _, -, computed⟩ := exists_of_bind_eq_ok computed
  obtain ⟨overrides, _, -, tabulated⟩ := exists_of_bind_eq_ok computed
  exact ⟨course, _, pipelines, flags, overrides, congrArg Prod.fst known, tabulated⟩

/-- **Standings stay aligned with their course.** Whatever a catalog and a repository are like, the
standings of a group, if there are any, come with the course of the group, and the results of every
student stand for its task groups one by one, with an entry for each task. So they do in the view
with the newest task groups first, in which every student has the place, the totals and the results
of task groups that the student had. Both are ranked, and turned around once more the view is what
it was made from. -/
theorem standings_aligned
    (computed : (standings platform catalog group keeps repository).1 = .ok table) :
    table.group = group ∧ catalog.find? group = some table.course ∧
      table.Aligned platform ∧ table.newestFirst.Aligned platform ∧
      table.TurnsInto table.newestFirst ∧
      rank table.users = table.users ∧ rank table.newestFirst.users = table.newestFirst.users ∧
      table.newestFirst.newestFirst = table := by
  obtain ⟨course, students, pipelines, flags, overrides, known, tabulated⟩ :=
    exists_tabulate_of_standings_eq_ok computed
  obtain ⟨reports, rows, rfl⟩ := tabulate_eq_ok_iff.1 tabulated
  have aligned : Standings.Aligned platform ⟨group, course, rank reports⟩ := by
    intro r mem
    have listed : r ∈ reports := (rank_perm reports).mem_iff.1 mem
    obtain ⟨s, -, graded⟩ := exists_eq_ok_of_mem_mapM (mapM_eq_ok_iff.2 rows) listed
    exact alignedWith_of_graded_eq_ok platform _ graded
  refine ⟨rfl, Catalog.course_eq_ok_iff.1 known, aligned, aligned.newestFirst,
    Standings.turnsInto_newestFirst _, rank_rank reports, ?_,
    Standings.newestFirst_newestFirst _⟩
  rw [Standings.newestFirst, rank_newestFirst, rank_rank]

/-- Four students have two task groups each. -/
theorem standings_aligned_sharedProject :
    ∃ table : Standings,
      (standings default .twoGroups "2024" (fun _ => true) { register := .sharedProject }).1 =
        .ok table ∧
      table.course = .twoGroups ∧ table.users.length = 4 ∧ table.Aligned default ∧
      table.newestFirst.Aligned default := by
  obtain ⟨reports, rows, made⟩ := Register.sharedProject.exists_standings_eq_ok default
    Catalog.find?_twoGroups (Course.sound_of_build_eq_ok Course.build_twoGroups) fun _ => true
  have computed :=
    (fst_standings default .twoGroups "2024" (fun _ => true) .sharedProject).trans made
  obtain ⟨-, -, aligned, alignedView, -⟩ := standings_aligned computed
  refine ⟨_, computed, rfl, ?_, aligned, alignedView⟩
  rw [(rank_perm reports).length_eq, ← rows.length_eq]
  rfl

end Repository
end Gradebook
