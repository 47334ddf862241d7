/-
# Tasks are graded apart

The entry of a task in a report depends on the records of that task alone. So where two
collections of records of a student agree but for one task, the dossiers agree on every other task
(`Holdings.AgreeButFor.agreeOn`), and since no task of a built course is listed twice, the two
reports differ in one entry at most, and their sums by what this entry differs by
(`gradeStudent_differ_in_one`). Records of a task that is not in the course change nothing.
-/

import Gradebook.Proofs.Grading.Evidence
import Gradebook.Proofs.Grading.Totals
import Gradebook.Proofs.Repository.Dataset
import Mathlib.Data.List.Nodup

namespace Gradebook

/-! ## Lists that differ in one place -/

/-- **Two lists that differ in one place at most,** with what stands there in each. -/
structure DifferAt {α : Type} (n : Nat) (x y : α) (xs ys : List α) : Prop where
  left : xs[n]? = some x
  right : ys[n]? = some y
  elsewhere : ∀ m, m ≠ n → xs[m]? = ys[m]?

section

variable {α β : Type} {n : Nat}

/-- Sums over two such lists differ by what the two items differ by. -/
theorem DifferAt.total_add {x y : α} {xs ys : List α} (differ : DifferAt n x y xs ys)
    (f : α → Nat) : total (xs.map f) + f y = total (ys.map f) + f x := by
  obtain ⟨left, right, elsewhere⟩ := differ
  induction xs generalizing n ys with
  | nil => cases left
  | cons first rest ih =>
    cases ys with
    | nil => cases right
    | cons first' rest' =>
      rw [List.map_cons, List.map_cons, total_cons, total_cons]
      cases n with
      | zero =>
        cases left
        cases right
        have tails : rest = rest' := List.ext_getElem? fun m => elsewhere (m + 1) (by omega)
        rw [tails]
        omega
      | succ n =>
        have heads : first = first' := Option.some.inj (elsewhere 0 (by omega))
        have tails := ih left right fun m other => elsewhere (m + 1) (by omega)
        rw [heads]
        omega

/-- Two functions that give the same on all items of a list but one. -/
theorem differAt_map {f g : α → β} {xs : List α} {x : α} (stands : xs[n]? = some x)
    (same : ∀ m, m ≠ n → ∀ other, xs[m]? = some other → f other = g other) :
    DifferAt n (f x) (g x) (xs.map f) (xs.map g) where
  left := by rw [List.getElem?_map, stands, Option.map_some]
  right := by rw [List.getElem?_map, stands, Option.map_some]
  elsewhere m other := by
    rw [List.getElem?_map, List.getElem?_map]
    cases found : xs[m]? with
    | none => rfl
    | some item => exact congrArg some (same m other item found)

end

/-! ## Where a task stands -/

/-- Of lists with no item in common, and none twice, two at different places share nothing. -/
theorem disjoint_of_nodup_flatMap {α β : Type} {f : α → List β} {xs : List α}
    (distinct : (xs.flatMap f).Nodup) {m n : Nat} (other : m ≠ n) {x y : α}
    (stands : xs[n]? = some x) (found : xs[m]? = some y) : (f x).Disjoint (f y) := by
  obtain ⟨ltN, rfl⟩ := List.getElem?_eq_some_iff.1 stands
  obtain ⟨ltM, rfl⟩ := List.getElem?_eq_some_iff.1 found
  have apart := List.pairwise_iff_getElem.1 (List.nodup_flatMap.1 distinct).2
  rcases Nat.lt_or_gt_of_ne other with lt | gt
  · exact fun _ here there => apart m n ltM ltN lt there here
  · exact apart n m ltN ltM gt

section

variable {groups : List TaskGroup} {g : TaskGroup} {t : Task} {m n : Nat}

/-- A task of one task group is in no other. -/
theorem id_ne_of_group_ne (distinct : (Course.taskIds groups).Nodup) (stands : groups[n]? = some g)
    (mem : t ∈ g.tasks) (other : m ≠ n) {h : TaskGroup} (found : groups[m]? = some h) {t' : Task}
    (mem' : t' ∈ h.tasks) : t'.id ≠ t.id := by
  intro same
  refine disjoint_of_nodup_flatMap distinct other stands found (List.mem_map_of_mem mem) ?_
  exact same ▸ List.mem_map_of_mem mem'

/-- A task that stands in one place of its task group stands in no other. -/
theorem id_ne_of_place_ne (distinct : (Course.taskIds groups).Nodup) (mem : g ∈ groups)
    (stands : g.tasks[n]? = some t) (other : m ≠ n) {t' : Task} (found : g.tasks[m]? = some t') :
    t'.id ≠ t.id := by
  intro same
  have own : (g.tasks.map (·.id)).Nodup := (List.nodup_flatMap.1 distinct).1 g mem
  have ids : (g.tasks.map (·.id))[m]? = (g.tasks.map (·.id))[n]? := by
    rw [List.getElem?_map, List.getElem?_map, found, stands, Option.map_some, Option.map_some, same]
  have lt : m < (g.tasks.map (·.id)).length := by
    rw [List.length_map]
    exact (List.getElem?_eq_some_iff.1 found).1
  exact other ((List.getElem?_inj lt own).1 ids)

end

/-! ## Records that agree but for one task -/

/-- **The records from which a student is graded.** The flags may be those of anyone. -/
structure Holdings where
  pipelines : List Pipeline
  flags : List Flag
  overrides : List Override

namespace Holdings

/-- A student with the records. -/
def dossier (h : Holdings) (s : Student) (project : String) : Dossier where
  student := s
  project := project
  evidence := .gather s.login h.pipelines h.flags
  overrides := overridesByTask h.overrides

/-- The override for a task that counts, which is the last one listed. -/
def override? (h : Holdings) (taskId : String) : Option Override :=
  h.overrides.reverse.find? fun o => o.taskId = taskId

/-- **Records that agree but for one task:** the same pipelines and flags for other tasks, in any
order, and the same overrides that count. -/
structure AgreeButFor (a b : Holdings) (taskId : String) : Prop where
  pipelines : (a.pipelines.filter fun p => p.taskId ≠ taskId).Perm
    (b.pipelines.filter fun p => p.taskId ≠ taskId)
  flags : (a.flags.filter fun f => f.taskId ≠ taskId).Perm
    (b.flags.filter fun f => f.taskId ≠ taskId)
  overrides : ∀ other, other ≠ taskId → a.override? other = b.override? other

/-- The records of one task are among those that are not of another. -/
theorem filter_filter_ne {α : Type} (key : α → String) (records : List α) {taskId other : String}
    (differs : other ≠ taskId) :
    (records.filter fun r => key r ≠ taskId).filter (fun r => key r = other) =
      records.filter fun r => key r = other := by
  rw [List.filter_filter]
  refine List.filter_congr fun r _ => ?_
  by_cases same : key r = other
  · simp [same, differs]
  · simp [same]

variable {a b : Holdings} {taskId : String}

/-- Records that are the same up to those of one task agree but for it. -/
theorem agreeButFor_of_filter_eq
    (pipelines : (a.pipelines.filter fun p => p.taskId ≠ taskId) =
      b.pipelines.filter fun p => p.taskId ≠ taskId)
    (flags : (a.flags.filter fun f => f.taskId ≠ taskId) =
      b.flags.filter fun f => f.taskId ≠ taskId)
    (overrides : (a.overrides.filter fun o => o.taskId ≠ taskId) =
      b.overrides.filter fun o => o.taskId ≠ taskId) : a.AgreeButFor b taskId where
  pipelines := .of_eq pipelines
  flags := .of_eq flags
  overrides other differs := by
    have last : ∀ h : Holdings, h.override? other =
        ((h.overrides.filter fun o => o.taskId ≠ taskId).filter
          fun o => o.taskId = other).reverse.head? := by
      intro h
      rw [filter_filter_ne _ _ differs, ← List.filter_reverse, List.head?_filter]
      rfl
    rw [last, last, overrides]

/-- **Dossiers of such records agree on every other task.** -/
theorem AgreeButFor.agreeOn (agree : a.AgreeButFor b taskId) (s : Student) (project : String)
    {other : String} (differs : other ≠ taskId) :
    (a.dossier s project).AgreeOn (b.dossier s project) other where
  student := rfl
  project := rfl
  signals := by
    refine Evidence.signal?_gather_of_perm_filter ?_ ?_
    · rw [← filter_filter_ne _ a.pipelines differs, ← filter_filter_ne _ b.pipelines differs]
      exact agree.pipelines.filter _
    · have claimed : ∀ flags : List Flag,
          ((flags.filter fun f => f.claimedBy = some s.login).filter fun f => f.taskId = other) =
            ((flags.filter fun f => f.taskId ≠ taskId).filter fun f => f.taskId = other).filter
              fun f => f.claimedBy = some s.login := by
        intro flags
        rw [filter_filter_ne _ _ differs, List.filter_comm]
      rw [claimed, claimed]
      exact (agree.flags.filter _).filter _
  override := by
    show (overridesByTask _).find? other = (overridesByTask _).find? other
    rw [find?_overridesByTask, find?_overridesByTask]
    exact agree.overrides other differs

end Holdings

/-! ## Reports that differ in one entry -/

/-- **Results of a task group that differ in one entry at most,** and in their scores by what this
entry differs by. -/
structure GroupResult.DifferIn (place : Nat) (x y : TaskResult) (a b : GroupResult) : Prop where
  tasks : DifferAt place x y a.tasks b.tasks
  score : (a.score : Int) - b.score = x.score.toNat - y.score.toNat
  rest : { a with tasks := b.tasks, score := b.score } = b

/-- **Reports that differ in one entry at most,** and in their scores by what this entry differs
by. -/
structure Report.DifferIn (group place : Nat) (x y : TaskResult) (a b : Report) : Prop where
  groups : ∃ g h, DifferAt group g h a.groups b.groups ∧ g.DifferIn place x y h
  score : (a.score : Int) - b.score = x.score.toNat - y.score.toNat
  rest : { a with groups := b.groups, score := b.score, finalMark := b.finalMark } = b

section

variable {a b : Holdings} {t : Task} (agree : a.AgreeButFor b t.id) (s : Student)
  (project : String) (platform : Platform) {c : Course}
  (distinct : (Course.taskIds c.taskGroups).Nodup) {g : TaskGroup} {place : Nat}
  (stands : g.tasks[place]? = some t)

include agree distinct stands

/-- The results of a task group with the task differ in the entry of the task. -/
theorem differIn_gradeGroup (mem : g ∈ c.taskGroups) (scoring : Course.Scoring) :
    (gradeGroup c platform (a.dossier s project) scoring g).DifferIn place
      (gradeTask c platform (a.dossier s project) scoring g t)
      (gradeTask c platform (b.dossier s project) scoring g t)
      (gradeGroup c platform (b.dossier s project) scoring g) := by
  have tasks := differAt_map (f := gradeTask c platform (a.dossier s project) scoring g)
    (g := gradeTask c platform (b.dossier s project) scoring g) stands fun m other t' found =>
      gradeTask_eq_of_agreeOn
        (agree.agreeOn s project (id_ne_of_place_ne distinct mem stands other found)) scoring g
  have scores := tasks.total_add fun entry => entry.score.toNat
  have maxima : (gradeGroup c platform (a.dossier s project) scoring g).maxScore =
      (gradeGroup c platform (b.dossier s project) scoring g).maxScore :=
    (maxScore_resultOf c platform _ (scoring, g)).trans
      (maxScore_resultOf c platform _ (scoring, g)).symm
  refine { tasks := tasks, score := ?_, rest := ?_ }
  · simp only [gradeGroup]
    omega
  · exact congrArg (fun most =>
      { gradeGroup c platform (b.dossier s project) scoring g with maxScore := most }) maxima

/-- **Reports on a course with the task differ in the entry of the task.** -/
theorem differIn_reportOf {resolved : List (Course.Scoring × TaskGroup)}
    (resolves : c.resolved = .ok resolved) {group : Nat} (found : c.taskGroups[group]? = some g) :
    ∃ x y : TaskResult, x.taskId = t.id ∧ y.taskId = t.id ∧ x.maxScore = y.maxScore ∧
      (reportOf c platform (a.dossier s project) resolved).DifferIn group place x y
        (reportOf c platform (b.dossier s project) resolved) := by
  have listed := Course.map_snd_of_resolved_eq_ok resolves
  obtain ⟨row, foundRow, rfl⟩ : ∃ row, resolved[group]? = some row ∧ row.2 = g := by
    rwa [← listed, List.getElem?_map, Option.map_eq_some_iff] at found
  have groups := differAt_map (f := resultOf c platform (a.dossier s project))
    (g := resultOf c platform (b.dossier s project)) foundRow fun m other row' found' => by
      have found' : c.taskGroups[m]? = some row'.2 := by
        rw [← listed, List.getElem?_map, found', Option.map_some]
      exact gradeGroup_eq_of_agreeOn (fun t' mem' => agree.agreeOn s project
        (id_ne_of_group_ne distinct found (List.mem_of_getElem? stands) other found' mem')) row'.1
  have differ := differIn_gradeGroup agree s project platform distinct stands
    (List.mem_of_getElem? found) row.1
  rw [← groups_reportOf, ← groups_reportOf] at groups
  refine ⟨_, _, taskId_gradeTask .., taskId_gradeTask .., ?_, ⟨_, _, groups, differ⟩, ?_, ?_⟩
  · rw [maxScore_gradeTask, maxScore_gradeTask]
  · have sums : (reportOf c platform (a.dossier s project) resolved).score +
        (gradeGroup c platform (b.dossier s project) row.1 row.2).score =
          (reportOf c platform (b.dossier s project) resolved).score +
            (gradeGroup c platform (a.dossier s project) row.1 row.2).score :=
      groups.total_add (·.score)
    have own := differ.score
    omega
  · have maxima : (reportOf c platform (a.dossier s project) resolved).maxScore =
        (reportOf c platform (b.dossier s project) resolved).maxScore := by
      rw [maxScore_reportOf, maxScore_reportOf]
    exact congrArg (fun most =>
      { reportOf c platform (b.dossier s project) resolved with maxScore := most }) maxima

end

/-! ## Locality -/

/-- **Records of one task have an effect on that task alone.** On every built course a student has
a report from each of two collections of records that agree but for a task. Where the task stands
in the course, the reports differ in its entry at most, with the same greatest scores, and in their
sums by what the entry differs by. If it is not in the course, they are the same. -/
theorem gradeStudent_differ_in_one {parts : Course.Parts} {c : Course}
    (built : Course.build parts = .ok c) {a b : Holdings} {taskId : String}
    (agree : a.AgreeButFor b taskId) (platform : Platform) (s : Student) (project : String) :
    ∃ r q, gradeStudent c platform (a.dossier s project) = .ok r ∧
      gradeStudent c platform (b.dossier s project) = .ok q ∧
      (∀ group g place t, c.taskGroups[group]? = some g → g.tasks[place]? = some t →
        t.id = taskId → ∃ x y : TaskResult, x.taskId = taskId ∧ y.taskId = taskId ∧
          x.maxScore = y.maxScore ∧ r.DifferIn group place x y q) ∧
      (taskId ∉ Course.taskIds c.taskGroups → r = q) := by
  obtain ⟨consistent, tallied⟩ := Course.tallied_of_build_eq_ok built
  have distinct : (Course.taskIds c.taskGroups).Nodup := by
    rw [(Course.madeFrom_of_tallied tallied).taskGroups]
    exact consistent.tasksDistinct
  obtain ⟨resolved, resolves⟩ := (Course.sound_of_build_eq_ok built).exists_resolved_eq_ok
  refine ⟨reportOf c platform (a.dossier s project) resolved,
    reportOf c platform (b.dossier s project) resolved, ?_, ?_, ?_, ?_⟩
  · rw [gradeStudent_eq_map_resolved, resolves]
    rfl
  · rw [gradeStudent_eq_map_resolved, resolves]
    rfl
  · rintro group g place t found stands rfl
    exact differIn_reportOf agree s project platform distinct stands resolves found
  · intro absent
    refine reportOf_eq_of_agreeOn rfl rfl fun row mem t memT => agree.agreeOn s project ?_
    rintro rfl
    obtain ⟨memG, -⟩ := Course.resolve_of_mem_resolved resolves mem
    exact absent (List.mem_flatMap.2 ⟨row.2, memG, List.mem_map_of_mem memT⟩)

/-! ### One task of two

Of two tasks of a task group the second has an override and then a flag, a pipeline and another
override. -/

/-- The parts of a course of two tasks. -/
def Course.Parts.twoTasks : Course.Parts :=
  { Parts.oneTask with
    taskGroups := [⟨"01-intro", "", default, default, [⟨"sum", 10, false⟩, ⟨"max", 5, true⟩]⟩] }

/-- A course of two tasks. -/
def Course.twoTasks : Course :=
  { oneTask with
    taskGroups := Parts.twoTasks.taskGroups
    scoringGroups := NameMap.empty.insert "weekly"
      { name := "weekly", weight := Binary64.one, policy := "flat", maxScore := 15 } }

theorem Course.build_twoTasks : build .twoTasks = .ok twoTasks := by decide

def Student.newcomer : Student := ⟨"login", "First", "Last", "2024", false⟩

namespace Holdings

def earlier : Holdings where
  pipelines := [⟨7, "project", "sum", .success, default⟩]
  flags := []
  overrides := [⟨"login", "max", 2, .failed⟩]

def later : Holdings where
  pipelines := ⟨8, "project", "max", .banned, default⟩ :: earlier.pipelines
  flags := [⟨"flag", "max", default, some "login"⟩]
  overrides := earlier.overrides ++ [⟨"login", "max", 4, .success⟩]

theorem agreeButFor_later : earlier.AgreeButFor later "max" :=
  agreeButFor_of_filter_eq (by decide) (by decide) (by decide)

end Holdings

theorem gradeStudent_differ_in_one_later :
    Course.build .twoTasks = .ok .twoTasks ∧ Holdings.earlier.AgreeButFor .later "max" ∧
      ∃ r q, gradeStudent .twoTasks default (Holdings.earlier.dossier .newcomer "project") = .ok r ∧
        gradeStudent .twoTasks default (Holdings.later.dossier .newcomer "project") = .ok q ∧
        ∃ x y : TaskResult, x.taskId = "max" ∧ y.taskId = "max" ∧ x.maxScore = y.maxScore ∧
          r.DifferIn 0 1 x y q := by
  refine ⟨Course.build_twoTasks, Holdings.agreeButFor_later, ?_⟩
  obtain ⟨r, q, first, second, differ, -⟩ := gradeStudent_differ_in_one Course.build_twoTasks
    Holdings.agreeButFor_later default .newcomer "project"
  exact ⟨r, q, first, second, differ 0 _ 1 _ rfl rfl rfl⟩

end Gradebook
