/-
# Sound courses

A course is *sound* if everything that grading looks up in it is there: task groups resolve,
tasks are found under their identifiers, the greatest score of a scoring group is what its tasks
can earn, and no report fails. `Course.build` makes sound courses and nothing else.
-/

import Gradebook.Proofs.Course.Building

namespace Gradebook

/-- A list of computations that can fail gives a list exactly if each gives its item. -/
theorem mapM_eq_ok_iff {α β ε : Type} {f : α → Except ε β} {xs : List α} {ys : List β} :
    xs.mapM f = .ok ys ↔ List.Forall₂ (fun x y => f x = .ok y) xs ys := by
  induction xs generalizing ys with
  | nil => simp [pure, Except.pure, eq_comm]
  | cons x xs ih =>
    rw [List.mapM_cons, List.forall₂_cons_left_iff]
    cases head : f x with
    | error e => simp [bind, Except.bind]
    | ok y =>
      cases tail : xs.mapM f with
      | error e =>
        simp only [tail, reduceCtorEq, false_iff] at ih
        simp [bind, Except.bind, ih]
      | ok rest =>
        simp only [tail, Except.ok.injEq] at ih
        simp [bind, Except.bind, pure, Except.pure, ← ih, eq_comm]

theorem exists_eq_ok_of_mem_mapM {α β ε : Type} {f : α → Except ε β} {xs : List α} {ys : List β}
    (made : xs.mapM f = .ok ys) {y : β} (mem : y ∈ ys) : ∃ x ∈ xs, f x = .ok y := by
  have rows := mapM_eq_ok_iff.1 made
  clear made
  induction rows with
  | nil => cases mem
  | cons head _ ih =>
    rcases List.mem_cons.1 mem with rfl | mem
    · exact ⟨_, List.mem_cons_self, head⟩
    · obtain ⟨x, memX, given⟩ := ih mem
      exact ⟨x, List.mem_cons_of_mem _ memX, given⟩

theorem exists_mapM_eq_ok {α β ε : Type} {f : α → Except ε β} {xs : List α}
    (h : ∀ x ∈ xs, ∃ y, f x = .ok y) : ∃ ys, xs.mapM f = .ok ys := by
  induction xs with
  | nil => exact ⟨[], rfl⟩
  | cons x xs ih =>
    obtain ⟨y, head⟩ := h x List.mem_cons_self
    obtain ⟨ys, tail⟩ := ih fun x mem => h x (List.mem_cons_of_mem _ mem)
    exact ⟨y :: ys, mapM_eq_ok_iff.2 (.cons head (mapM_eq_ok_iff.1 tail))⟩

namespace Course

/-- Whether a task group resolves to a scoring group. -/
def resolvesTo (c : Course) (group : ScoringGroup) (g : TaskGroup) : Bool :=
  match c.resolve g with
  | .ok scoring => scoring.group = group
  | .error _ => false

/-- **A sound course.** -/
structure Sound (c : Course) : Prop where
  resolves : ∀ g ∈ c.taskGroups, ∃ scoring, c.resolve g = .ok scoring
  /-- No task group whatever, not even one of another course, meets an unknown policy. -/
  knowsPolicies : ∀ g group policy, c.resolve g ≠ .error (.unknownPolicy group policy)
  findsTasks : ∀ g ∈ c.taskGroups, ∀ t ∈ g.tasks, c.findTask? t.id = some (g, t)
  maxima : ∀ name group, c.scoringGroups.find? name = some group →
    group.maxScore = total ((c.taskGroups.filter (c.resolvesTo group)).map (·.nominalTotal))
  grades : ∀ platform dossier, ∃ report, gradeStudent c platform dossier = .ok report

/-- **A course made from parts:** it has them all, and under each name the scoring group listed
last under it, up to the greatest score. -/
structure MadeFrom (parts : Parts) (c : Course) : Prop where
  taskGroups : c.taskGroups = parts.taskGroups
  policies : c.policies = parts.policies
  defaultScoringGroup : c.defaultScoringGroup = parts.defaultScoringGroup
  finalDeadline : c.finalDeadline = parts.finalDeadline
  retakeRatio : c.retakeRatio = parts.retakeRatio
  scoringGroups : ∀ name, (c.scoringGroups.find? name).map (fun g => { g with maxScore := 0 }) =
    (parts.scoringGroup? name).map fun g => { g with maxScore := 0 }

/-! ## Looking up tasks -/

theorem find?_task_of_nodup {tasks : List Task} (distinct : (tasks.map (·.id)).Nodup) {t : Task}
    (mem : t ∈ tasks) : tasks.find? (fun other => other.id = t.id) = some t := by
  induction tasks with
  | nil => cases mem
  | cons first rest ih =>
    have ⟨fresh, distinct⟩ := List.nodup_cons.1 distinct
    rcases List.mem_cons.1 mem with rfl | mem
    · simp
    · have : first.id ≠ t.id := fun same => fresh (List.mem_map.2 ⟨t, mem, same.symm⟩)
      rw [List.find?_cons_of_neg (by simpa using this)]
      exact ih distinct mem

theorem findSome?_task_of_nodup {groups : List TaskGroup} (distinct : (taskIds groups).Nodup)
    {g : TaskGroup} (memGroup : g ∈ groups) {t : Task} (mem : t ∈ g.tasks) :
    groups.findSome? (fun g => (g.tasks.find? fun other => other.id = t.id).map fun t => (g, t)) =
      some (g, t) := by
  induction groups with
  | nil => cases memGroup
  | cons first rest ih =>
    have ⟨distinctFirst, distinctRest, apart⟩ := List.nodup_append.1 distinct
    rcases List.mem_cons.1 memGroup with rfl | memGroup
    · rw [List.findSome?_cons, find?_task_of_nodup distinctFirst mem]
      rfl
    · have absent : first.tasks.find? (fun other => other.id = t.id) = none := by
        simp only [List.find?_eq_none, decide_eq_true_eq]
        intro other memFirst same
        exact apart _ (List.mem_map_of_mem memFirst) _
          (List.mem_flatMap.2 ⟨g, memGroup, List.mem_map_of_mem mem⟩) same
      rw [List.findSome?_cons, absent]
      exact ih distinctRest memGroup

/-! ## Soundness -/

/-- A report is made as soon as every task group resolves. -/
theorem exists_gradeStudent_eq_ok {c : Course}
    (resolves : ∀ g ∈ c.taskGroups, ∃ scoring, c.resolve g = .ok scoring) (platform : Platform)
    (dossier : Dossier) : ∃ report, gradeStudent c platform dossier = .ok report := by
  have scored : ∃ scored, c.taskGroups.mapM (fun g => do
      let scoring ← c.resolve g
      return (scoring, gradeGroup c platform dossier scoring g)) = .ok scored :=
    exists_mapM_eq_ok fun g mem => by
      obtain ⟨scoring, resolved⟩ := resolves g mem
      exact ⟨_, by rw [resolved]; rfl⟩
  obtain ⟨scored, made⟩ := scored
  exact ⟨_, by rw [gradeStudent, made]; rfl⟩

/-- A scoring group of a built course has the name under which it is found. -/
theorem Tallied.name_eq {parts : Parts} {groups : List TaskGroup} {c : Course}
    (h : Tallied (unscored parts) groups c) {name : String} {group : ScoringGroup}
    (found : c.scoringGroups.find? name = some group) : group.name = name := by
  rw [h.found, find?_unscored, Option.map_map, Option.map_eq_some_iff] at found
  obtain ⟨listed, found, rfl⟩ := found
  simpa using List.find?_some found

/-- In a built course the task groups that resolve to a scoring group are those that refer to
its name. -/
theorem Tallied.resolvesTo_iff {parts : Parts} (exist : parts.PoliciesExist)
    {groups : List TaskGroup} {c : Course} (h : Tallied (unscored parts) groups c) {name : String}
    {group : ScoringGroup} (found : c.scoringGroups.find? name = some group) (g : TaskGroup) :
    c.resolvesTo group g = true ↔ c.scoringGroupName g = name := by
  constructor
  · intro resolves
    unfold resolvesTo at resolves
    split at resolves
    · next scoring resolved =>
      have same : scoring.group = group := of_decide_eq_true resolves
      have foundToo := (resolve_eq_ok_iff.1 resolved).1
      rw [← h.name_eq foundToo, ← h.name_eq found, same]
    · cases resolves
  · rintro rfl
    have known := h.knowsPolicies (knowsPolicies_unscored exist)
    obtain ⟨policy, resolved⟩ := known.resolve_of_find?_eq_some found
    simp [resolvesTo, resolved]

theorem madeFrom_of_tallied {parts : Parts} {groups : List TaskGroup} {c : Course}
    (h : Tallied (unscored parts) groups c) : MadeFrom parts c where
  taskGroups := by rw [h.frame]; rfl
  policies := by rw [h.frame]; rfl
  defaultScoringGroup := by rw [h.frame]; rfl
  finalDeadline := by rw [h.frame]; rfl
  retakeRatio := by rw [h.frame]; rfl
  scoringGroups name := by
    rw [h.found, find?_unscored, Option.map_map, Option.map_map]
    rfl

/-- **A course that was built is sound.** -/
theorem sound_of_tallied {parts : Parts} (consistent : parts.Consistent) {c : Course}
    (h : Tallied (unscored parts) parts.taskGroups c) : c.Sound := by
  have taskGroups : c.taskGroups = parts.taskGroups := (madeFrom_of_tallied h).taskGroups
  have known := h.knowsPolicies (knowsPolicies_unscored consistent.policiesExist)
  have resolves : ∀ g ∈ c.taskGroups, ∃ scoring, c.resolve g = .ok scoring := by
    intro g mem
    have there : (c.scoringGroups.find? (c.scoringGroupName g)).isSome = true := by
      rw [h.found, h.scoringGroupName, Option.isSome_map, isSome_find?_unscored,
        scoringGroupName_unscored]
      exact consistent.scoringGroupsExist g (taskGroups ▸ mem)
    obtain ⟨group, found⟩ := Option.isSome_iff_exists.1 there
    obtain ⟨policy, resolved⟩ := known.resolve_of_find?_eq_some found
    exact ⟨_, resolved⟩
  refine ⟨resolves, ?_, ?_, ?_, exists_gradeStudent_eq_ok resolves⟩
  · intro g group policy unknown
    cases found : c.scoringGroups.find? (c.scoringGroupName g) with
    | none =>
      rw [resolve_of_find?_eq_none found] at unknown
      cases unknown
    | some scoringGroup =>
      obtain ⟨p, resolved⟩ := known.resolve_of_find?_eq_some found
      rw [resolved] at unknown
      cases unknown
  · intro g memGroup t mem
    rw [findTask?, taskGroups]
    exact findSome?_task_of_nodup consistent.tasksDistinct (taskGroups ▸ memGroup) mem
  · intro name group found
    have refers : c.taskGroups.filter (c.resolvesTo group) =
        parts.taskGroups.filter fun g => (unscored parts).scoringGroupName g = name := by
      rw [taskGroups]
      refine List.filter_congr fun g _ => ?_
      rw [Bool.eq_iff_iff, h.resolvesTo_iff consistent.policiesExist found, h.scoringGroupName,
        decide_eq_true_eq]
    rw [refers]
    rw [h.found, find?_unscored, Option.map_map, Option.map_eq_some_iff] at found
    obtain ⟨listed, -, rfl⟩ := found
    simp [nominalTotalOf]

/-! ## Building -/

theorem exists_build_eq_ok_iff {parts : Parts} :
    (∃ c, build parts = .ok c) ↔ parts.Consistent := by
  constructor
  · rintro ⟨c, built⟩
    rcases parts.consistent_or_refused with consistent | ⟨e, refused⟩
    · exact consistent
    · rw [build_of_refused refused] at built
      cases built
  · intro consistent
    obtain ⟨c, built, -⟩ := build_of_consistent consistent
    exact ⟨c, built⟩

theorem build_eq_error_iff {parts : Parts} {e : CourseError} :
    build parts = .error e ↔ parts.Refused e := by
  refine ⟨fun failed => ?_, build_of_refused⟩
  rcases parts.consistent_or_refused with consistent | ⟨e', refused⟩
  · obtain ⟨c, built, -⟩ := build_of_consistent consistent
    rw [built] at failed
    cases failed
  · have same := build_of_refused refused
    rw [failed] at same
    cases same
    exact refused

theorem tallied_of_build_eq_ok {parts : Parts} {c : Course} (built : build parts = .ok c) :
    parts.Consistent ∧ Tallied (unscored parts) parts.taskGroups c := by
  have consistent := exists_build_eq_ok_iff.1 ⟨c, built⟩
  obtain ⟨d, built', tallied⟩ := build_of_consistent consistent
  rw [built] at built'
  cases built'
  exact ⟨consistent, tallied⟩

theorem sound_of_build_eq_ok {parts : Parts} {c : Course} (built : build parts = .ok c) :
    c.Sound := by
  obtain ⟨consistent, tallied⟩ := tallied_of_build_eq_ok built
  exact sound_of_tallied consistent tallied

/-- **Building accepts exactly the consistent parts,** fails otherwise with the error of the
first check that fails, and makes a sound course that has the parts it is made from. -/
theorem build_exact (parts : Parts) :
    ((∃ c, build parts = .ok c) ↔ parts.Consistent) ∧
      (∀ e, build parts = .error e ↔ parts.Refused e) ∧
        ∀ c, build parts = .ok c → MadeFrom parts c ∧ c.Sound :=
  ⟨exists_build_eq_ok_iff, fun _ => build_eq_error_iff, fun _ built =>
    ⟨madeFrom_of_tallied (tallied_of_build_eq_ok built).2, sound_of_build_eq_ok built⟩⟩

/-! ## Small courses

Courses that are small enough to be worked out by hand. -/

def Parts.oneTask : Parts where
  taskGroups := [⟨"01-intro", "", default, default, [⟨"sum", 10, false⟩]⟩]
  policies := NameMap.empty.insert "flat" (.linear (.ofDays 7) Binary64.zero)
  scoringGroups := [{ name := "weekly", weight := Binary64.one, policy := "flat" }]
  defaultScoringGroup := "weekly"
  finalDeadline := none
  retakeRatio := Binary64.zero

def oneTask : Course where
  taskGroups := Parts.oneTask.taskGroups
  policies := Parts.oneTask.policies
  scoringGroups := NameMap.empty.insert "weekly"
    { name := "weekly", weight := Binary64.one, policy := "flat", maxScore := 10 }
  defaultScoringGroup := "weekly"
  finalDeadline := none
  retakeRatio := Binary64.zero

theorem build_oneTask : build .oneTask = .ok oneTask := by decide

/-- The parts of a course of two task groups. Both belong to one scoring group, the first because it
names none. -/
def Parts.twoGroups : Parts :=
  { Parts.oneTask with
    taskGroups := [⟨"01-intro", "", default, default, [⟨"sum", 10, false⟩, ⟨"max", 5, true⟩]⟩,
      ⟨"02-loops", "weekly", default, default, [⟨"prime", 7, false⟩]⟩] }

/-- A course of two task groups. -/
def twoGroups : Course :=
  { oneTask with
    taskGroups := Parts.twoGroups.taskGroups
    scoringGroups := NameMap.empty.insert "weekly"
      { name := "weekly", weight := Binary64.one, policy := "flat", maxScore := 22 } }

theorem build_twoGroups : build .twoGroups = .ok twoGroups := by decide

/-- The parts of the course of one task with a weight to choose. -/
def Parts.weighing (weight : Binary64) : Parts :=
  { Parts.oneTask with
    scoringGroups := [{ name := "weekly", weight := weight, policy := "flat" }] }

/-- The course of one task with a weight to choose. -/
def weighing (weight : Binary64) : Course :=
  { oneTask with
    scoringGroups := NameMap.empty.insert "weekly"
      { name := "weekly", weight := weight, policy := "flat", maxScore := 10 } }

end Course
end Gradebook
