/-
# Totals

The greatest scores of a course are worked out when it is built and the scores of a student when
the student is graded, each by a pass of its own over the task groups. They agree
(`exists_report_addsUp`): the greatest scores in a report, added up for a scoring group, are the
greatest score of the scoring group. So no share of the final mark is divided by zero, and a task
group that has no share has nothing to earn.
-/

import Gradebook.Proofs.Binary64.Bounds
import Gradebook.Proofs.Grading.Reports
import Mathlib.Algebra.Order.BigOperators.Group.List

namespace Gradebook

/-! ## Sums -/

theorem total_eq_sum (numbers : List Nat) : total numbers = numbers.sum := rfl

/-- The sum of the sums of parts is the sum of all. -/
theorem total_map_total {α β : Type} (parts : α → List β) (f : β → Nat) (xs : List α) :
    total (xs.map fun x => total ((parts x).map f)) = total ((xs.flatMap parts).map f) := by
  induction xs with
  | nil => rfl
  | cons x xs ih =>
    rw [List.map_cons, total_cons, ih, List.flatMap_cons, List.map_append, total_eq_sum,
      total_eq_sum, total_eq_sum, List.sum_append]

theorem le_total_of_mem {n : Nat} {numbers : List Nat} (mem : n ∈ numbers) :
    n ≤ total numbers :=
  List.single_le_sum (fun _ _ => Nat.zero_le _) n mem

theorem total_filter_le {α : Type} (f : α → Nat) (p : α → Bool) (xs : List α) :
    total ((xs.filter p).map f) ≤ total (xs.map f) :=
  (List.filter_sublist.map f).sum_le_sum fun _ _ => Nat.zero_le _

theorem total_le_length_mul {numbers : List Nat} {bound : Nat}
    (small : ∀ n ∈ numbers, n ≤ bound) : total numbers ≤ numbers.length * bound := by
  induction numbers with
  | nil => exact Nat.zero_le _
  | cons n rest ih =>
    have head := small n List.mem_cons_self
    have tail := ih fun n mem => small n (List.mem_cons_of_mem _ mem)
    rw [total_cons, List.length_cons, Nat.add_mul]
    omega

/-- Fewer than `2 ^ 32` numbers of 32 bits have a sum of 64 bits. -/
theorem total_lt {numbers : List Nat} (few : numbers.length < 2 ^ 32)
    (small : ∀ n ∈ numbers, n < 2 ^ 32) : total numbers < 2 ^ 64 := by
  have sum : total numbers ≤ numbers.length * (2 ^ 32 - 1) :=
    total_le_length_mul fun n mem => by
      have := small n mem
      omega
  have most : numbers.length * (2 ^ 32 - 1) ≤ (2 ^ 32 - 1) * (2 ^ 32 - 1) :=
    Nat.mul_le_mul_right _ (by omega)
  omega

/-! ## A task without points -/

namespace Score

theorem round_of_not_finite {x : Binary64} (extreme : x.isFinite = false) : round x = 0 := by
  simp [round, extreme]

/-- A share of nothing is nothing, whatever the share. -/
theorem scale_zero (ratio : Binary64) : scale 0 ratio = 0 := by
  have none : Binary64.ofNat (0 : Score).toNat = Binary64.zero := by decide +kernel
  have rounds : ∀ negative, round (Binary64.ofUnits negative 0 Binary64.unitsPerOne) = 0 := by
    decide +kernel
  rw [scale, none]
  cases finite : ratio.isFinite with
  | false => exact round_of_not_finite (Binary64.isFinite_mul_right _ finite)
  | true =>
    have zero : Binary64.zero.units = 0 := by decide
    rw [Binary64.mul_of_isFinite (by decide) finite, zero, Nat.zero_mul]
    exact rounds _

end Score

theorem Policy.award_zero (policy : Policy) (deadline submitted : Instant) :
    policy.award 0 deadline submitted = 0 := by
  unfold award awardWith
  split
  · rfl
  · exact Score.scale_zero _

/-- **A task without points earns none,** whatever the evidence, unless by an override. -/
theorem score_evaluate_of_nominalScore_eq_zero {terms : TaskTerms}
    (none : terms.task.nominalScore = 0) (signal : Option Signal) (retake : Bool)
    (override? : Option Override)
    (plain : (evaluate terms signal retake override?).overridden = false) :
    (evaluate terms signal retake override?).score = 0 := by
  cases override? with
  | some o => cases plain
  | none =>
    have earned : terms.earned signal = 0 := by
      unfold TaskTerms.earned
      rw [none]
      split
      · split
        · exact Policy.award_zero ..
        · rfl
      · rfl
    have floor : terms.retakeFloor = 0 := by
      rw [TaskTerms.retakeFloor, none]
      exact Score.scale_zero _
    show terms.score signal retake = 0
    rw [TaskTerms.score, earned, floor]
    split <;> rfl

/-! ## Task groups that resolve -/

namespace Course

variable {c : Course} {resolved : List (Scoring × TaskGroup)}

theorem map_eq_ok_pair_iff {g : TaskGroup} {row : Scoring × TaskGroup} :
    ((c.resolve g).map fun scoring => (scoring, g)) = .ok row ↔
      c.resolve g = .ok row.1 ∧ row.2 = g := by
  obtain ⟨scoring, g'⟩ := row
  cases c.resolve g with
  | error e => simp [Except.map]
  | ok other => simp [Except.map, eq_comm]

/-- The task groups stay as they are listed. -/
theorem map_snd_of_resolved_eq_ok (resolves : c.resolved = .ok resolved) :
    resolved.map (·.2) = c.taskGroups := by
  have rows := mapM_eq_ok_iff.1 resolves
  generalize c.taskGroups = groups at rows ⊢
  clear resolves
  induction rows with
  | nil => rfl
  | cons row _ ih => rw [List.map_cons, (map_eq_ok_pair_iff.1 row).2, ih]

theorem resolve_of_mem_resolved (resolves : c.resolved = .ok resolved)
    {row : Scoring × TaskGroup} (mem : row ∈ resolved) :
    row.2 ∈ c.taskGroups ∧ c.resolve row.2 = .ok row.1 := by
  obtain ⟨g, memG, made⟩ := exists_eq_ok_of_mem_mapM resolves mem
  obtain ⟨resolve, rfl⟩ := map_eq_ok_pair_iff.1 made
  exact ⟨memG, resolve⟩

/-- A built course has its scoring groups under their own names. -/
def NamesScoringGroups (c : Course) : Prop :=
  ∀ name group, c.scoringGroups.find? name = some group → group.name = name

theorem namesScoringGroups_of_build_eq_ok {parts : Parts} (built : build parts = .ok c) :
    c.NamesScoringGroups :=
  fun _ _ found => (tallied_of_build_eq_ok built).2.name_eq found

variable (names : c.NamesScoringGroups) (resolves : c.resolved = .ok resolved)

include names

/-- A scoring group that a task group resolves to is found under its name. -/
theorem find?_name_of_resolve_eq_ok {g : TaskGroup} {scoring : Scoring}
    (resolve : c.resolve g = .ok scoring) :
    c.scoringGroups.find? scoring.group.name = some scoring.group := by
  have found := (resolve_eq_ok_iff.1 resolve).1
  rw [names _ _ found]
  exact found

include resolves

/-- The task groups that resolve to a scoring group are those that resolve to its name. -/
theorem map_snd_filter_resolved {name : String} {group : ScoringGroup}
    (found : c.scoringGroups.find? name = some group) :
    (resolved.filter fun row => row.1.group.name = name).map (·.2) =
      c.taskGroups.filter (c.resolvesTo group) := by
  rw [← map_snd_of_resolved_eq_ok resolves, List.filter_map]
  congr 1
  refine List.filter_congr fun row mem => ?_
  obtain ⟨-, resolve⟩ := resolve_of_mem_resolved resolves mem
  have own := find?_name_of_resolve_eq_ok names resolve
  rw [Function.comp_apply, resolvesTo, resolve, Bool.eq_iff_iff]
  simp only [decide_eq_true_eq]
  constructor
  · rintro rfl
    exact Option.some.inj (own.symm.trans found)
  · rintro rfl
    exact names _ _ found

end Course

/-! ## What a report adds up -/

/-- The scoring group that the result of a task group belongs to. -/
def Course.scoringGroupOf? (c : Course) (result : GroupResult) : Option ScoringGroup :=
  c.scoringGroups.find? result.scoringGroup

/-- Whether the result of a task group has a share in the final mark. -/
def Course.counts (c : Course) (result : GroupResult) : Bool :=
  (c.scoringGroupOf? result).any fun group => group.maxScore ≠ 0

/-- The share of the result of a task group in the final mark. -/
def Course.share (c : Course) (result : GroupResult) : Binary64 :=
  match c.scoringGroupOf? result with
  | some group => group.weight * Binary64.ofNat result.score / Binary64.ofNat group.maxScore
  | none => Binary64.zero

/-- **A report that adds up.** -/
structure Report.AddsUp (r : Report) (c : Course) : Prop where
  /-- The greatest scores in the report are those of the course. -/
  maxima : ∀ name group, c.scoringGroups.find? name = some group →
    total ((r.groups.filter fun result => result.scoringGroup = name).map (·.maxScore)) =
      group.maxScore
  score : r.score = total ((r.groups.flatMap (·.tasks)).map fun entry => entry.score.toNat)
  maxScore : r.maxScore = total ((c.taskGroups.flatMap (·.tasks)).map fun t => t.nominalScore.toNat)
  /-- The sums fit in 64 bits, and so do all that are part of them. -/
  score_lt : r.score < 2 ^ 64
  maxScore_lt : r.maxScore < 2 ^ 64
  parts_le : ∀ result ∈ r.groups, result.score ≤ r.score ∧ result.maxScore ≤ r.maxScore
  maxima_le : ∀ name group, c.scoringGroups.find? name = some group → group.maxScore ≤ r.maxScore
  finalMark : r.finalMark = ((r.groups.filter c.counts).map c.share).foldl (· + ·) Binary64.zero
  /-- No share is divided by zero. -/
  divisors : ∀ result ∈ r.groups, c.counts result = true → ∃ group,
    c.scoringGroupOf? result = some group ∧
      Binary64.zero.lt (Binary64.ofNat group.maxScore) = true
  /-- A task group without a share has nothing to earn. -/
  leftOut : ∀ result ∈ r.groups, c.counts result = false → ∃ group,
    c.scoringGroupOf? result = some group ∧
      (∀ g ∈ c.taskGroups, c.resolvesTo group g = true → ∀ t ∈ g.tasks, t.nominalScore = 0) ∧
      ∀ entry ∈ result.tasks, entry.overridden = false → entry.score = 0

/-! ## Reports add up -/

section

variable (course : Course) (platform : Platform) (dossier : Dossier)
  (resolved : List (Course.Scoring × TaskGroup))

/-- The result of a task group that resolves. -/
def resultOf (row : Course.Scoring × TaskGroup) : GroupResult :=
  gradeGroup course platform dossier row.1 row.2

theorem groups_reportOf :
    (reportOf course platform dossier resolved).groups =
      resolved.map (resultOf course platform dossier) := by
  simp only [reportOf, scoredGroups, List.map_map]
  rfl

theorem maxScore_evaluate (terms : TaskTerms) (signal : Option Signal) (retake : Bool)
    (override? : Option Override) :
    (evaluate terms signal retake override?).maxScore = terms.task.nominalScore := by
  cases override? <;> rfl

theorem taskId_gradeTask (scoring : Course.Scoring) (g : TaskGroup) (t : Task) :
    (gradeTask course platform dossier scoring g t).taskId = t.id :=
  taskId_evaluate (termsOf course scoring g t) ..

theorem maxScore_gradeTask (scoring : Course.Scoring) (g : TaskGroup) (t : Task) :
    (gradeTask course platform dossier scoring g t).maxScore = t.nominalScore :=
  maxScore_evaluate (termsOf course scoring g t) ..

theorem maxScore_resultOf (row : Course.Scoring × TaskGroup) :
    (resultOf course platform dossier row).maxScore = row.2.nominalTotal := by
  show total ((row.2.tasks.map (gradeTask course platform dossier row.1 row.2)).map
    fun entry => entry.maxScore.toNat) = total (row.2.tasks.map fun t => t.nominalScore.toNat)
  rw [List.map_map]
  refine congrArg total (List.map_congr_left fun t _ => ?_)
  exact congrArg UInt32.toNat (maxScore_gradeTask course platform dossier row.1 row.2 t)

/-- The greatest scores in a report are those of the course, whatever the records. -/
theorem maxScore_reportOf :
    (reportOf course platform dossier resolved).maxScore =
      total (resolved.map fun row => row.2.nominalTotal) := by
  show total ((reportOf course platform dossier resolved).groups.map (·.maxScore)) = _
  rw [groups_reportOf, List.map_map]
  exact congrArg total
    (List.map_congr_left fun row _ => maxScore_resultOf course platform dossier row)

theorem score_reportOf :
    (reportOf course platform dossier resolved).score =
      total (((reportOf course platform dossier resolved).groups.flatMap (·.tasks)).map
        fun entry => entry.score.toNat) := by
  rw [← total_map_total]
  show total ((reportOf course platform dossier resolved).groups.map (·.score)) = _
  rw [groups_reportOf, List.map_map, List.map_map]
  rfl

theorem length_tasks_reportOf :
    ((reportOf course platform dossier resolved).groups.flatMap (·.tasks)).length =
      ((resolved.map (·.2)).flatMap (·.tasks)).length := by
  rw [groups_reportOf, List.length_flatMap, List.length_flatMap, List.map_map, List.map_map]
  refine congrArg List.sum (List.map_congr_left fun row _ => ?_)
  exact List.length_map ..

variable {course resolved}

/-- What the share of a task group is worked out from is found under the name in the result. -/
theorem scoringGroupOf?_resultOf {row : Course.Scoring × TaskGroup}
    (own : course.scoringGroups.find? row.1.group.name = some row.1.group) :
    course.scoringGroupOf? (resultOf course platform dossier row) = some row.1.group :=
  own

theorem counts_resultOf {row : Course.Scoring × TaskGroup}
    (own : course.scoringGroups.find? row.1.group.name = some row.1.group) :
    course.counts (resultOf course platform dossier row) = true ↔ row.1.group.maxScore ≠ 0 := by
  rw [Course.counts, scoringGroupOf?_resultOf platform dossier own]
  simp

theorem addShare_of_eq_zero {mark : Binary64} {scored : Course.Scoring × GroupResult}
    (none : scored.1.group.maxScore = 0) : addShare mark scored = mark :=
  if_pos none

theorem addShare_of_ne_zero {mark : Binary64} {scored : Course.Scoring × GroupResult}
    (some : scored.1.group.maxScore ≠ 0) :
    addShare mark scored =
      mark + scored.1.group.weight * Binary64.ofNat scored.2.score /
        Binary64.ofNat scored.1.group.maxScore :=
  if_neg some

/-- **The shares are added up** in the order of the task groups, those left out aside. -/
theorem foldl_addShare_scoredGroups
    (own : ∀ row ∈ resolved,
      course.scoringGroups.find? row.1.group.name = some row.1.group) (mark : Binary64) :
    (scoredGroups course platform dossier resolved).foldl addShare mark =
      (((resolved.map (resultOf course platform dossier)).filter course.counts).map
        course.share).foldl (· + ·) mark := by
  induction resolved generalizing mark with
  | nil => rfl
  | cons row rest ih =>
    have ownRow := own row List.mem_cons_self
    have tail := ih fun other mem => own other (List.mem_cons_of_mem _ mem)
    have counts := counts_resultOf platform dossier ownRow
    show (scoredGroups course platform dossier rest).foldl addShare
      (addShare mark (row.1, resultOf course platform dossier row)) = _
    rw [List.map_cons]
    by_cases none : row.1.group.maxScore = 0
    · rw [addShare_of_eq_zero none,
        List.filter_cons_of_neg (by rw [counts]; exact fun some => some none)]
      exact tail mark
    · have share : addShare mark (row.1, resultOf course platform dossier row) =
          mark + course.share (resultOf course platform dossier row) := by
        rw [Course.share, scoringGroupOf?_resultOf platform dossier ownRow]
        exact addShare_of_ne_zero none
      rw [share, List.filter_cons_of_pos (counts.2 none), List.map_cons, List.foldl_cons]
      exact tail _

end

section

variable {c : Course} {resolved : List (Course.Scoring × TaskGroup)}

/-- A scoring group that can earn nothing has no task with points. -/
theorem Course.Sound.nominalScore_eq_zero (sound : c.Sound) {name : String} {group : ScoringGroup}
    (found : c.scoringGroups.find? name = some group) (none : group.maxScore = 0) {g : TaskGroup}
    (mem : g ∈ c.taskGroups) (resolves : c.resolvesTo group g = true) {t : Task}
    (memT : t ∈ g.tasks) : t.nominalScore = 0 := by
  have sum := sound.maxima name group found
  have part : g.nominalTotal ≤ group.maxScore := by
    rw [sum]
    exact le_total_of_mem (List.mem_map_of_mem (List.mem_filter.2 ⟨mem, resolves⟩))
  have own : t.nominalScore.toNat ≤ g.nominalTotal := le_total_of_mem (List.mem_map_of_mem memT)
  exact UInt32.toNat_inj.1 (by simpa using (by omega : t.nominalScore.toNat = 0))

/-- **Reports on a built course add up.** -/
theorem addsUp_reportOf (sound : c.Sound) (names : c.NamesScoringGroups)
    (few : (c.taskGroups.flatMap (·.tasks)).length < 2 ^ 32)
    (resolves : c.resolved = .ok resolved) (platform : Platform) (dossier : Dossier) :
    (reportOf c platform dossier resolved).AddsUp c := by
  have groups := groups_reportOf c platform dossier resolved
  have listed := Course.map_snd_of_resolved_eq_ok resolves
  have own : ∀ row ∈ resolved, c.scoringGroups.find? row.1.group.name = some row.1.group :=
    fun row mem => Course.find?_name_of_resolve_eq_ok names
      (Course.resolve_of_mem_resolved resolves mem).2
  have maxima : ∀ name group, c.scoringGroups.find? name = some group →
      total (((reportOf c platform dossier resolved).groups.filter
        fun result => result.scoringGroup = name).map (·.maxScore)) = group.maxScore := by
    intro name group found
    rw [groups, List.filter_map, List.map_map, sound.maxima name group found,
      ← Course.map_snd_filter_resolved names resolves found, List.map_map]
    exact congrArg total (List.map_congr_left fun row _ => maxScore_resultOf c platform dossier row)
  have maxScore : (reportOf c platform dossier resolved).maxScore =
      total ((c.taskGroups.flatMap (·.tasks)).map fun t => t.nominalScore.toNat) := by
    show total ((reportOf c platform dossier resolved).groups.map (·.maxScore)) = _
    rw [groups, ← total_map_total, ← listed, List.map_map, List.map_map]
    exact congrArg total (List.map_congr_left fun row _ => maxScore_resultOf c platform dossier row)
  have score := score_reportOf c platform dossier resolved
  refine
    { maxima := maxima
      score := score
      maxScore := maxScore
      score_lt := ?_
      maxScore_lt := ?_
      parts_le := ?_
      maxima_le := ?_
      finalMark := ?_
      divisors := ?_
      leftOut := ?_ }
  · rw [score]
    refine total_lt ?_ fun n mem => ?_
    · rw [List.length_map, length_tasks_reportOf, listed]
      exact few
    · obtain ⟨entry, -, rfl⟩ := List.mem_map.1 mem
      exact entry.score.toNat_lt
  · rw [maxScore]
    refine total_lt (by rwa [List.length_map]) fun n mem => ?_
    obtain ⟨t, -, rfl⟩ := List.mem_map.1 mem
    exact t.nominalScore.toNat_lt
  · intro result mem
    exact ⟨le_total_of_mem (List.mem_map_of_mem mem), le_total_of_mem (List.mem_map_of_mem mem)⟩
  · intro name group found
    rw [← maxima name group found]
    exact total_filter_le ..
  · rw [groups]
    exact foldl_addShare_scoredGroups platform dossier own Binary64.zero
  · intro result mem counts
    rw [groups] at mem
    obtain ⟨row, memRow, rfl⟩ := List.mem_map.1 mem
    have some := (counts_resultOf platform dossier (own row memRow)).1 counts
    exact ⟨row.1.group, own row memRow, Binary64.zero_lt_ofNat (Nat.pos_of_ne_zero some)⟩
  · intro result mem counts
    rw [groups] at mem
    obtain ⟨row, memRow, rfl⟩ := List.mem_map.1 mem
    have none : row.1.group.maxScore = 0 := by
      by_contra some
      rw [(counts_resultOf platform dossier (own row memRow)).2 some] at counts
      cases counts
    have empty : ∀ g ∈ c.taskGroups, c.resolvesTo row.1.group g = true → ∀ t ∈ g.tasks,
        t.nominalScore = 0 := fun g memG resolves t memT =>
      sound.nominalScore_eq_zero (own row memRow) none memG resolves memT
    refine ⟨row.1.group, own row memRow, empty, fun entry memEntry plain => ?_⟩
    obtain ⟨t, memT, rfl⟩ := List.mem_map.1 memEntry
    obtain ⟨memG, resolve⟩ := Course.resolve_of_mem_resolved resolves memRow
    have nominal := empty row.2 memG (by rw [Course.resolvesTo, resolve]; simp) t memT
    exact score_evaluate_of_nominalScore_eq_zero nominal _ _ _ plain

end

/-- **The totals of a report agree with the greatest scores of the course.** On every course that
was built and has fewer than `2 ^ 32` tasks every student has a report, and it adds up. -/
theorem exists_report_addsUp {parts : Course.Parts} {c : Course}
    (built : Course.build parts = .ok c) (few : (c.taskGroups.flatMap (·.tasks)).length < 2 ^ 32)
    (platform : Platform) (dossier : Dossier) :
    ∃ report, gradeStudent c platform dossier = .ok report ∧ report.AddsUp c := by
  have sound := Course.sound_of_build_eq_ok built
  obtain ⟨report, made⟩ := sound.grades platform dossier
  rw [gradeStudent_eq_map_resolved] at made ⊢
  cases resolves : c.resolved with
  | error e =>
    rw [resolves] at made
    cases made
  | ok resolved =>
    exact ⟨_, rfl, addsUp_reportOf sound (Course.namesScoringGroups_of_build_eq_ok built) few
      resolves platform dossier⟩

/-! ### A scoring group without points -/

/-- The parts of a course of two task groups, and of a third one in a scoring group of its own,
whose only task has no points. -/
def Course.Parts.withNotes : Course.Parts :=
  { Parts.twoGroups with
    taskGroups := Parts.twoGroups.taskGroups ++
      [⟨"03-notes", "notes", default, default, [⟨"essay", 0, false⟩]⟩]
    scoringGroups := Parts.twoGroups.scoringGroups ++
      [{ name := "notes", weight := Binary64.one, policy := "flat" }] }

/-- A course with a scoring group that has no points to earn. -/
def Course.withNotes : Course :=
  { twoGroups with
    taskGroups := Parts.withNotes.taskGroups
    scoringGroups := twoGroups.scoringGroups.insert "notes"
      { name := "notes", weight := Binary64.one, policy := "flat", maxScore := 0 } }

theorem Course.build_withNotes : build .withNotes = .ok withNotes := by decide

/-- A student with the greatest score there is on one task, given by hand, and a success on one task
of each of the two other groups. -/
def Dossier.outscored : Dossier where
  student := ⟨"login", "First", "Last", "2024", true⟩
  project := "2024-First-Last-login"
  evidence := .gather "login"
    [⟨7, "2024-First-Last-login", "prime", .success, default⟩,
      ⟨8, "2024-First-Last-login", "essay", .success, default⟩] []
  overrides := NameMap.empty.insert "sum" ⟨"login", "sum", 4294967295, .success⟩

theorem exists_report_addsUp_outscored :
    Course.build .withNotes = .ok .withNotes ∧
      (Course.withNotes.taskGroups.flatMap (·.tasks)).length < 2 ^ 32 ∧
      ∃ report, gradeStudent .withNotes default .outscored = .ok report ∧
        report.AddsUp .withNotes :=
  have few : (Course.withNotes.taskGroups.flatMap (·.tasks)).length < 2 ^ 32 := by decide
  ⟨Course.build_withNotes, few,
    exists_report_addsUp Course.build_withNotes few default .outscored⟩

/-- The greatest scores of the first two groups add up to those of their scoring group, and the
third adds nothing to either sum. -/
example : ((gradeStudent .withNotes default .outscored).map fun r =>
    (r.groups.map fun result => (result.score, result.maxScore), r.score, r.maxScore)) =
    .ok ([(4294967295, 15), (7, 7), (0, 0)], 4294967302, 22) := by
  decide +kernel

end Gradebook
