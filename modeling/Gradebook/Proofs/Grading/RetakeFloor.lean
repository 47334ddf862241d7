/-
# The floor of a retake

A student who takes the course again gets at least a share of the nominal score of every task
(`TaskTerms.retakeFloor`). Whether a student does so is asked in one place, after the final deadline
and the policy and before the override, so the report is that of the same student taking the course
for the first time with every entry lifted to the floor, except those that show an override
(`reportOf_retaking`). Lifting changes scores alone and lowers none, and the sums follow.
-/

import Gradebook.Proofs.Grading.Totals
import Gradebook.Proofs.Repository.Answers

namespace Gradebook

theorem Score.le_max_left (a b : Score) : a ≤ max a b := by
  rw [UInt32.le_iff_toNat_le, UInt32.toNat_max]
  exact Nat.le_max_left ..

/-- Sums of greater numbers are greater. -/
theorem total_map_le_total_map {α : Type} {f g : α → Nat} {xs : List α}
    (le : ∀ x ∈ xs, f x ≤ g x) : total (xs.map f) ≤ total (xs.map g) :=
  List.sum_le_sum le

/-! ## Lifting a report -/

/-- **An entry lifted to a floor:** its score is no less, unless it was set by hand. -/
def TaskResult.lifted (floor : Score) (entry : TaskResult) : TaskResult :=
  if entry.overridden then entry else { entry with score := max entry.score floor }

/-- The result of a task group with every entry lifted to a share of its greatest score. -/
def GroupResult.lifted (ratio : Binary64) (result : GroupResult) : GroupResult :=
  let tasks := result.tasks.map fun entry => entry.lifted (entry.maxScore.scale ratio)
  { result with tasks := tasks, score := total (tasks.map fun entry => entry.score.toNat) }

/-- **The report of a student who takes the course again,** from the report for the first time. -/
def Report.lifted (c : Course) (r : Report) : Report :=
  let groups := r.groups.map (GroupResult.lifted c.retakeRatio)
  { r with
    student := { r.student with retake := true }
    groups := groups
    score := total (groups.map (·.score))
    finalMark := ((groups.filter c.counts).map c.share).foldl (· + ·) Binary64.zero }

/-- **How two reports compare** if the second is the first one lifted. -/
structure Report.LiftsTo (c : Course) (r q : Report) : Prop where
  /-- Nothing but the scores, what they add up to and the retake itself is different. -/
  lifted : q = r.lifted c
  /-- The greatest score of every entry is the nominal score of its task. -/
  nominal : List.Forall₂ (fun g result => List.Forall₂
    (fun t entry => entry.taskId = t.id ∧ entry.maxScore = t.nominalScore) g.tasks result.tasks)
    c.taskGroups r.groups
  groups : List.Forall₂ (fun a b => a.score ≤ b.score ∧ a.maxScore = b.maxScore) r.groups q.groups
  score : r.score ≤ q.score
  maxScore : r.maxScore = q.maxScore

theorem TaskResult.score_le_lifted (floor : Score) (entry : TaskResult) :
    entry.score ≤ (entry.lifted floor).score := by
  unfold lifted
  split
  · exact UInt32.le_refl _
  · exact Score.le_max_left ..

/-- What a task group adds up to is no less after lifting. -/
theorem GroupResult.score_le_lifted (ratio : Binary64) {result : GroupResult}
    (sum : result.score = total (result.tasks.map fun entry => entry.score.toNat)) :
    result.score ≤ (result.lifted ratio).score := by
  rw [sum, lifted, List.map_map]
  exact total_map_le_total_map fun entry _ =>
    UInt32.le_iff_toNat_le.1 (entry.score_le_lifted _)

/-! ## Retakes -/

/-- A student with or without a retake. -/
def Student.retaking (s : Student) (retake : Bool) : Student := { s with retake := retake }

/-- A dossier whose student takes the course again or does not. -/
def Dossier.retaking (d : Dossier) (retake : Bool) : Dossier :=
  { d with student := d.student.retaking retake }

/-- **The floor comes after the final deadline and the policy** and before the override. -/
theorem evaluate_retake (terms : TaskTerms) (signal : Option Signal)
    (override? : Option Override) :
    evaluate terms signal true override? =
      (evaluate terms signal false override?).lifted terms.retakeFloor := by
  cases override? <;> simp [evaluate, TaskTerms.score, TaskResult.lifted]

section

variable (c : Course) (platform : Platform) (d : Dossier)

/-- **The entry of a task** is lifted to its share of the nominal score, links and all. -/
theorem gradeTask_retaking (scoring : Course.Scoring) (g : TaskGroup) (t : Task) :
    gradeTask c platform (d.retaking true) scoring g t =
      (gradeTask c platform (d.retaking false) scoring g t).lifted
        (t.nominalScore.scale c.retakeRatio) := by
  have entry := evaluate_retake (termsOf c scoring g t)
    (d.evidence.signal? t.id t.alternateProof) (d.overrides.find? t.id)
  simp only [gradeTask, Dossier.retaking, Student.retaking, entry]
  simp only [TaskResult.lifted]
  split <;> rfl

/-- **The result of a task group** is lifted entry by entry. -/
theorem gradeGroup_retaking (scoring : Course.Scoring) (g : TaskGroup) :
    gradeGroup c platform (d.retaking true) scoring g =
      (gradeGroup c platform (d.retaking false) scoring g).lifted c.retakeRatio := by
  have entries : g.tasks.map (gradeTask c platform (d.retaking true) scoring g) =
      (g.tasks.map (gradeTask c platform (d.retaking false) scoring g)).map
        fun entry => entry.lifted (entry.maxScore.scale c.retakeRatio) := by
    rw [List.map_map]
    refine List.map_congr_left fun t _ => ?_
    rw [gradeTask_retaking, Function.comp_apply, maxScore_gradeTask]
  have maxima : ∀ retake, total ((g.tasks.map (gradeTask c platform (d.retaking retake) scoring g)).map
      fun entry => entry.maxScore.toNat) = g.nominalTotal :=
    fun retake => maxScore_resultOf c platform (d.retaking retake) (scoring, g)
  simp only [gradeGroup, GroupResult.lifted, maxima]
  rw [entries]

/-- **The report of a retake** is the report for the first time, lifted. -/
theorem reportOf_retaking (names : c.NamesScoringGroups)
    {resolved : List (Course.Scoring × TaskGroup)} (resolves : c.resolved = .ok resolved) :
    reportOf c platform (d.retaking true) resolved =
      (reportOf c platform (d.retaking false) resolved).lifted c := by
  have groups : (reportOf c platform (d.retaking true) resolved).groups =
      (reportOf c platform (d.retaking false) resolved).groups.map
        (GroupResult.lifted c.retakeRatio) := by
    rw [groups_reportOf, groups_reportOf, List.map_map]
    exact List.map_congr_left fun row _ => gradeGroup_retaking c platform d row.1 row.2
  have own : ∀ row ∈ resolved, c.scoringGroups.find? row.1.group.name = some row.1.group :=
    fun row mem => Course.find?_name_of_resolve_eq_ok names
      (Course.resolve_of_mem_resolved resolves mem).2
  have maxScore : (reportOf c platform (d.retaking false) resolved).maxScore =
      (reportOf c platform (d.retaking true) resolved).maxScore := by
    rw [maxScore_reportOf, maxScore_reportOf]
  have mark := foldl_addShare_scoredGroups platform (d.retaking true) own Binary64.zero
  rw [← groups_reportOf] at mark
  rw [Report.lifted, ← groups, ← mark, maxScore]
  rfl

/-- The entries of a report stand for the tasks of the course. -/
theorem nominal_reportOf {resolved : List (Course.Scoring × TaskGroup)}
    (resolves : c.resolved = .ok resolved) :
    List.Forall₂ (fun g result => List.Forall₂
      (fun t entry => entry.taskId = t.id ∧ entry.maxScore = t.nominalScore) g.tasks result.tasks)
      c.taskGroups (reportOf c platform d resolved).groups := by
  rw [groups_reportOf, ← Course.map_snd_of_resolved_eq_ok resolves, List.forall₂_map_left_iff,
    List.forall₂_map_right_iff, List.forall₂_same]
  intro row _
  rw [resultOf, gradeGroup, List.forall₂_map_right_iff, List.forall₂_same]
  exact fun t _ => ⟨taskId_gradeTask .., maxScore_gradeTask ..⟩

end

/-- **A report that is lifted** loses nothing. -/
theorem liftsTo_reportOf {c : Course} (names : c.NamesScoringGroups)
    {resolved : List (Course.Scoring × TaskGroup)} (resolves : c.resolved = .ok resolved)
    (platform : Platform) (d : Dossier) :
    Report.LiftsTo c (reportOf c platform (d.retaking false) resolved)
      (reportOf c platform (d.retaking true) resolved) := by
  have lifted := reportOf_retaking c platform d names resolves
  have sums : ∀ result ∈ (reportOf c platform (d.retaking false) resolved).groups,
      result.score ≤ (result.lifted c.retakeRatio).score := by
    rw [groups_reportOf]
    intro result mem
    obtain ⟨row, -, rfl⟩ := List.mem_map.1 mem
    exact GroupResult.score_le_lifted _ rfl
  refine
    { lifted := lifted
      nominal := nominal_reportOf c platform (d.retaking false) resolves
      groups := ?_
      score := ?_
      maxScore := ?_ }
  · rw [lifted, Report.lifted, List.forall₂_map_right_iff, List.forall₂_same]
    exact fun result mem => ⟨sums result mem, rfl⟩
  · rw [lifted, Report.lifted, List.map_map]
    exact total_map_le_total_map sums
  · rw [lifted]
    rfl

/-- **A retake only lifts.** On every built course a student has a report with a retake and one
without, and the first is the second with the score of every entry raised to a share of the nominal
score, those with an override aside: nothing else in it is different, no sum is less, and all
greatest scores are the same. So it is for whatever is on record, and in particular where the
records are found by what the student is called. -/
theorem retaking_lifts {parts : Course.Parts} {c : Course} (built : Course.build parts = .ok c)
    (platform : Platform) :
    (∀ d : Dossier, ∃ r q, gradeStudent c platform (d.retaking false) = .ok r ∧
      gradeStudent c platform (d.retaking true) = .ok q ∧ r.LiftsTo c q) ∧
    ∀ (catalog : Catalog) (register : Register) (s : Student), catalog.find? s.group = some c →
      ∃ r q, (Repository.report platform catalog (s.retaking false) { register := register }).1 =
          .ok r ∧
        (Repository.report platform catalog (s.retaking true) { register := register }).1 = .ok q ∧
        r.LiftsTo c q := by
  have names := Course.namesScoringGroups_of_build_eq_ok built
  obtain ⟨resolved, resolves⟩ := (Course.sound_of_build_eq_ok built).exists_resolved_eq_ok
  have graded : ∀ d, gradeStudent c platform d = .ok (reportOf c platform d resolved) := by
    intro d
    rw [gradeStudent_eq_map_resolved, resolves]
    rfl
  refine ⟨fun d => ⟨_, _, graded _, graded _, liftsTo_reportOf names resolves platform d⟩,
    fun catalog register s published => ?_⟩
  have reported : ∀ retake,
      (Repository.report platform catalog (s.retaking retake) { register := register }).1 =
        .ok (reportOf c platform ((register.dossier s).retaking retake) resolved) := by
    intro retake
    have known : catalog.course (s.retaking retake).group = .ok c :=
      Catalog.course_eq_ok_iff.2 published
    rw [Repository.fst_report, Register.report_of_known known, Repository.graded, graded]
    rfl
  exact ⟨_, _, reported false, reported true,
    liftsTo_reportOf names resolves platform (register.dossier s)⟩

/-! ### A task not attempted and one set by hand

Half of the points are the floor. The first task is lifted to five of ten points, and the second
stays at the two of five that it was given. -/

/-- The parts of a course whose retakes earn half of the points. -/
def Course.Parts.lenient : Course.Parts :=
  { Parts.oneTask with
    taskGroups := [⟨"01-intro", "", default, default, [⟨"sum", 10, false⟩, ⟨"max", 5, true⟩]⟩]
    retakeRatio := { negative := false, magnitude := 0x3FE0000000000000 } }

/-- A course whose retakes earn half of the points. -/
def Course.lenient : Course :=
  { oneTask with
    taskGroups := Parts.lenient.taskGroups
    scoringGroups := NameMap.empty.insert "weekly"
      { name := "weekly", weight := Binary64.one, policy := "flat", maxScore := 15 }
    retakeRatio := Parts.lenient.retakeRatio }

theorem Course.build_lenient : build .lenient = .ok lenient := by decide

/-- A register of one student, who has an override. -/
def Register.corrected : Register where
  students := [⟨"login", "First", "Last", "2024", false⟩]
  overrides := [⟨"login", "max", 2, .failed⟩]

theorem retaking_lifts_lenient :
    Course.build .lenient = .ok .lenient ∧
      (NameMap.empty.insert "2024" Course.lenient).find? "2024" = some .lenient ∧
      ∃ r q, (Repository.report default (NameMap.empty.insert "2024" Course.lenient)
          ⟨"login", "First", "Last", "2024", false⟩ { register := .corrected }).1 = .ok r ∧
        (Repository.report default (NameMap.empty.insert "2024" Course.lenient)
          ⟨"login", "First", "Last", "2024", true⟩ { register := .corrected }).1 = .ok q ∧
        r.LiftsTo .lenient q := by
  have published : (NameMap.empty.insert "2024" Course.lenient).find? "2024" = some .lenient :=
    NameMap.find?_insert_self ..
  exact ⟨Course.build_lenient, published, (retaking_lifts Course.build_lenient default).2 _
    .corrected ⟨"login", "First", "Last", "2024", false⟩ published⟩

example : ((Repository.report default (NameMap.empty.insert "2024" Course.lenient)
    ⟨"login", "First", "Last", "2024", true⟩ { register := .corrected }).1.map fun r =>
      r.groups.map fun result => (result.tasks.map (·.score), result.score)) =
    .ok [([5, 2], 7)] := by
  decide +kernel

end Gradebook
