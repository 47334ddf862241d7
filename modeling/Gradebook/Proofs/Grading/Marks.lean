/-
# Final marks that are numbers

Building a course checks the floors of its policies and its retake ratio, but no weight. So it is
up to the weights whether final marks are numbers (`exists_report_finite_as_weights`): a weight
that counts and is not finite leaves no student with a finite mark, whatever the evidence, and with
weights up to `2 ^ 959` the mark of every student is finite. That is the invariant of the sum: after
`n` tasks it is at most `n * 2 ^ 991`, which is the greatest weight times `n` of the greatest scores.
-/

import Gradebook.Proofs.Grading.Totals

namespace Gradebook

open Binary64 (unitsPerOne)

/-! ## The weights that count -/

/-- A weight that the score of a task group is multiplied by. -/
def Course.Weighs (c : Course) (weight : Binary64) : Prop :=
  ∃ g ∈ c.taskGroups, ∃ scoring, c.resolve g = .ok scoring ∧ scoring.group.maxScore ≠ 0 ∧
    scoring.group.weight = weight

theorem Course.weighs_iff {c : Course} {resolved : List (Course.Scoring × TaskGroup)}
    (resolves : c.resolved = .ok resolved) {weight : Binary64} :
    c.Weighs weight ↔
      ∃ row ∈ resolved, row.1.group.maxScore ≠ 0 ∧ row.1.group.weight = weight := by
  constructor
  · rintro ⟨g, mem, scoring, resolve, some, rfl⟩
    rw [← Course.map_snd_of_resolved_eq_ok resolves] at mem
    obtain ⟨row, memRow, rfl⟩ := List.mem_map.1 mem
    have own := (Course.resolve_of_mem_resolved resolves memRow).2
    rw [resolve] at own
    cases own
    exact ⟨row, memRow, some, rfl⟩
  · rintro ⟨row, memRow, some, rfl⟩
    obtain ⟨mem, resolve⟩ := Course.resolve_of_mem_resolved resolves memRow
    exact ⟨row.2, mem, row.1, resolve, some, rfl⟩

/-! ## What is not finite stays in the mark -/

theorem isFinite_of_isFinite_addShare {mark : Binary64} {scored : Course.Scoring × GroupResult}
    (finite : (addShare mark scored).isFinite = true) :
    mark.isFinite = true ∧
      (scored.1.group.maxScore ≠ 0 → scored.1.group.weight.isFinite = true) := by
  by_cases none : scored.1.group.maxScore = 0
  · rw [addShare_of_eq_zero none] at finite
    exact ⟨finite, fun some => absurd none some⟩
  · rw [addShare_of_ne_zero none] at finite
    constructor
    · by_contra extreme
      rw [Bool.not_eq_true] at extreme
      rw [Binary64.isFinite_add_left extreme] at finite
      cases finite
    · intro _
      by_contra extreme
      rw [Bool.not_eq_true] at extreme
      have product := Binary64.isFinite_mul_left extreme (Binary64.ofNat scored.2.score)
      have share := Binary64.isFinite_div_left product (Binary64.ofNat scored.1.group.maxScore)
      rw [Binary64.isFinite_add_right mark share] at finite
      cases finite

theorem isFinite_of_isFinite_foldl_addShare {scored : List (Course.Scoring × GroupResult)}
    {mark : Binary64} (finite : (scored.foldl addShare mark).isFinite = true) :
    mark.isFinite = true ∧
      ∀ row ∈ scored, row.1.group.maxScore ≠ 0 → row.1.group.weight.isFinite = true := by
  induction scored generalizing mark with
  | nil => exact ⟨finite, fun _ mem => nomatch mem⟩
  | cons row rest ih =>
    obtain ⟨sum, tail⟩ := ih finite
    obtain ⟨start, head⟩ := isFinite_of_isFinite_addShare sum
    exact ⟨start, List.forall_mem_cons.2 ⟨head, tail⟩⟩

/-! ## Bounds of a mark -/

/-- `2 ^ 959` in units: weights up to here count as ordinary. -/
def mostWeight : Nat := Nat.pow 2 959 * unitsPerOne

/-- The most units that a task can add to a mark, with ordinary weights. -/
def mostUnits : Nat := mostWeight * 2 ^ 32

theorem mostUnits_def : mostUnits = mostWeight * 2 ^ 32 := rfl

theorem mostUnits_eq : mostUnits = 2 ^ 2065 := by decide +kernel

section

variable {n : Nat} (few : n < 2 ^ 32)

include few

theorem isBound_mul_two_pow {e : Nat} (small : e ≤ 2065) : Binary64.IsBound (n * 2 ^ e) := by
  have binade : Binary64.binade = 2 ^ 52 := by decide
  rcases Nat.le_total e 2045 with below | above
  · exact Binary64.exists_unitsOf_eq (by omega) below
  · -- The places that a small number leaves free take up what the exponent is too large.
    have split : n * 2 ^ e = n * 2 ^ 20 * 2 ^ (e - 20) := by
      rw [Nat.mul_assoc, ← Nat.pow_add, show 20 + (e - 20) = e by omega]
    rw [split]
    exact Binary64.exists_unitsOf_eq (by omega) (by omega)

theorem isBound_mul_mostUnits : Binary64.IsBound (n * mostUnits) := by
  rw [mostUnits_eq]
  exact isBound_mul_two_pow few (Nat.le_refl _)

theorem within_ofNat_points {score : Nat} (most : score ≤ n * 2 ^ 32) :
    (Binary64.ofNat score).Within (n * (2 ^ 32 * unitsPerOne)) := by
  have points : 2 ^ 32 * unitsPerOne = 2 ^ 1106 := by decide +kernel
  have isBound := isBound_mul_two_pow few (e := 1106) (by omega)
  rw [← points] at isBound
  refine Binary64.within_ofNat isBound ?_
  rw [← Nat.mul_assoc]
  exact Nat.mul_le_mul_right _ most

/-- The share of `n` tasks in a mark. -/
theorem within_share {weight : Binary64} (ordinary : weight.Within mostWeight)
    {score maxScore : Nat} (most : score ≤ n * 2 ^ 32) (some : 0 < maxScore)
    (finite : (Binary64.ofNat maxScore).isFinite = true) :
    (weight * Binary64.ofNat score / Binary64.ofNat maxScore).Within (n * mostUnits) := by
  have isBound := isBound_mul_mostUnits few
  have points := within_ofNat_points few most
  have product : (weight * Binary64.ofNat score).Within (n * mostUnits) := by
    refine Binary64.within_mul isBound ordinary.1 points.1 ?_
    calc weight.units * (Binary64.ofNat score).units
        ≤ mostWeight * (n * (2 ^ 32 * unitsPerOne)) := Nat.mul_le_mul ordinary.2 points.2
      _ = n * mostUnits * unitsPerOne := by
        rw [mostUnits_def]
        ring
  have one := Binary64.unitsPerOne_le_units_ofNat some finite
  exact Binary64.within_div isBound product.1 finite (Binary64.unitsPerOne_pos.trans_le one)
    (Nat.mul_le_mul product.2 one)

end

/-- What fits in 64 bits is finite. -/
theorem isFinite_ofNat {n : Nat} (small : n < 2 ^ 64) : (Binary64.ofNat n).isFinite = true := by
  have points : 2 ^ 64 * unitsPerOne = 2 ^ 1138 := by decide +kernel
  have isBound := isBound_mul_two_pow (n := 1) (e := 1138) (by omega) (by omega)
  rw [Nat.one_mul, ← points] at isBound
  have most : n * unitsPerOne ≤ 2 ^ 64 * unitsPerOne := Nat.mul_le_mul_right _ small.le
  exact (Binary64.within_ofNat isBound most).1

section

variable (course : Course) (platform : Platform) (dossier : Dossier)

theorem score_resultOf_le (row : Course.Scoring × TaskGroup) :
    (resultOf course platform dossier row).score ≤ row.2.tasks.length * 2 ^ 32 := by
  let entries := row.2.tasks.map (gradeTask course platform dossier row.1 row.2)
  have most : ∀ n ∈ entries.map fun entry => entry.score.toNat, n ≤ 2 ^ 32 := by
    intro n mem
    obtain ⟨entry, -, rfl⟩ := List.mem_map.1 mem
    exact entry.score.toNat_lt.le
  have sum := total_le_length_mul most
  rwa [List.length_map, List.length_map] at sum

variable {course platform dossier}

/-- **Every task group leaves the mark within its bound.** -/
theorem within_addShare {row : Course.Scoring × TaskGroup} {n : Nat} {mark : Binary64}
    (few : n + row.2.tasks.length < 2 ^ 32)
    (ordinary : row.1.group.maxScore ≠ 0 → row.1.group.weight.Within mostWeight)
    (small : row.1.group.maxScore < 2 ^ 64) (within : mark.Within (n * mostUnits)) :
    (addShare mark (row.1, resultOf course platform dossier row)).Within
      ((n + row.2.tasks.length) * mostUnits) := by
  rw [Nat.add_mul]
  by_cases none : row.1.group.maxScore = 0
  · rw [addShare_of_eq_zero none]
    exact ⟨within.1, within.2.trans (Nat.le_add_right _ _)⟩
  · have most := score_resultOf_le course platform dossier row
    have share := within_share (by omega : row.2.tasks.length < 2 ^ 32) (ordinary none) most
      (Nat.pos_of_ne_zero none) (isFinite_ofNat small)
    have isBound := isBound_mul_mostUnits few
    rw [Nat.add_mul] at isBound
    rw [addShare_of_ne_zero none]
    exact Binary64.within_add isBound within.1 share.1 (Nat.add_le_add within.2 share.2)

/-- **The mark after some tasks** is finite. -/
theorem isFinite_foldl_addShare {resolved : List (Course.Scoring × TaskGroup)}
    (ordinary : ∀ row ∈ resolved, row.1.group.maxScore ≠ 0 →
      row.1.group.weight.Within mostWeight)
    (small : ∀ row ∈ resolved, row.1.group.maxScore < 2 ^ 64) {n : Nat}
    (few : n + ((resolved.map (·.2)).flatMap (·.tasks)).length < 2 ^ 32) {mark : Binary64}
    (within : mark.Within (n * mostUnits)) :
    ((scoredGroups course platform dossier resolved).foldl addShare mark).isFinite = true := by
  induction resolved generalizing n mark with
  | nil => exact within.1
  | cons row rest ih =>
    rw [List.map_cons, List.flatMap_cons, List.length_append, ← Nat.add_assoc] at few
    obtain ⟨ordinaryRow, ordinaryRest⟩ := List.forall_mem_cons.1 ordinary
    obtain ⟨smallRow, smallRest⟩ := List.forall_mem_cons.1 small
    exact ih ordinaryRest smallRest few
      (within_addShare (by omega) ordinaryRow smallRow within)

end

/-! ## One task with full marks -/

/-- What the one task group resolves to. -/
def Course.rowWeighing (weight : Binary64) : Scoring × TaskGroup :=
  (⟨{ name := "weekly", weight := weight, policy := "flat", maxScore := 10 },
    .linear (.ofDays 7) Binary64.zero⟩,
    ⟨"01-intro", "", default, default, [⟨"sum", 10, false⟩]⟩)

theorem Course.resolved_weighing (weight : Binary64) :
    (weighing weight).resolved = .ok [rowWeighing weight] := rfl

/-- A student with full marks for the one task of `Course.oneTask`. -/
def Dossier.fullMarks : Dossier where
  student := ⟨"login", "First", "Last", "2024", true⟩
  project := "2024-First-Last-login"
  evidence := default
  overrides := NameMap.empty.insert "sum" ⟨"login", "sum", 10, .success⟩

/-! ## Weights decide -/

/-- **A final mark is a number if the weights are.** On every course that was built every student
has a report. Its final mark is finite only if every weight that counts is. The other way round it
is if the weights that count are at most `2 ^ 959` in absolute value, on a course of fewer than
`2 ^ 32` tasks. -/
theorem exists_report_finite_as_weights {parts : Course.Parts} {c : Course}
    (built : Course.build parts = .ok c) (platform : Platform) (dossier : Dossier) :
    ∃ report, gradeStudent c platform dossier = .ok report ∧
      (report.finalMark.isFinite = true → ∀ weight, c.Weighs weight → weight.isFinite = true) ∧
      ((c.taskGroups.flatMap (·.tasks)).length < 2 ^ 32 →
        (∀ weight, c.Weighs weight → weight.Within mostWeight) →
          report.finalMark.isFinite = true) := by
  have sound := Course.sound_of_build_eq_ok built
  have names := Course.namesScoringGroups_of_build_eq_ok built
  obtain ⟨report, made⟩ := sound.grades platform dossier
  rw [gradeStudent_eq_map_resolved] at made ⊢
  cases resolves : c.resolved with
  | error e =>
    rw [resolves] at made
    cases made
  | ok resolved =>
    refine ⟨reportOf c platform dossier resolved, rfl, fun finite weight weighs => ?_,
      fun few ordinary => ?_⟩
    · obtain ⟨row, mem, some, rfl⟩ := (Course.weighs_iff resolves).1 weighs
      exact (isFinite_of_isFinite_foldl_addShare finite).2 _
        (List.mem_map_of_mem (f := fun row => (row.1, gradeGroup c platform dossier row.1 row.2))
          mem) some
    · have addsUp := addsUp_reportOf sound names few resolves platform dossier
      refine isFinite_foldl_addShare (n := 0)
        (fun row mem some => ordinary _ ((Course.weighs_iff resolves).2 ⟨row, mem, some, rfl⟩))
        (fun row mem => ?_) ?_ (Binary64.within_zero _)
      · have found := Course.find?_name_of_resolve_eq_ok names
          (Course.resolve_of_mem_resolved resolves mem).2
        exact (addsUp.maxima_le _ _ found).trans_lt addsUp.maxScore_lt
      · rwa [Course.map_snd_of_resolved_eq_ok resolves, Nat.zero_add]

theorem exists_report_finite_as_weights_fullMarks :
    Course.build .oneTask = .ok .oneTask ∧
      (Course.oneTask.taskGroups.flatMap (·.tasks)).length < 2 ^ 32 ∧
      (∀ weight, Course.oneTask.Weighs weight → weight.Within mostWeight) ∧
      ∃ report, gradeStudent .oneTask default .fullMarks = .ok report ∧
        report.finalMark.isFinite = true := by
  have few : (Course.oneTask.taskGroups.flatMap (·.tasks)).length < 2 ^ 32 := by decide
  have ordinary : ∀ weight, Course.oneTask.Weighs weight → weight.Within mostWeight := by
    intro weight weighs
    obtain ⟨row, mem, -, rfl⟩ := (Course.weighs_iff (Course.resolved_weighing .one)).1 weighs
    rw [List.mem_singleton.1 mem]
    exact ⟨by decide, by decide +kernel⟩
  obtain ⟨report, made, -, finite⟩ :=
    exists_report_finite_as_weights Course.build_oneTask default .fullMarks
  exact ⟨Course.build_oneTask, few, ordinary, report, made, finite few ordinary⟩

/-- `2 ^ 1023`, which is finite and too large for the mark of more than one point. -/
def Binary64.heavy : Binary64 := { negative := false, magnitude := 0x7FE0000000000000 }

/-- A student who has done nothing. -/
def Dossier.newcomer : Dossier where
  student := ⟨"login", "First", "Last", "2024", false⟩
  project := "2024-First-Last-login"
  evidence := default
  overrides := .empty

theorem gradeStudent_weighing (weight : Binary64) (platform : Platform) (dossier : Dossier) :
    gradeStudent (.weighing weight) platform dossier =
      .ok (reportOf (.weighing weight) platform dossier [Course.rowWeighing weight]) := by
  rw [gradeStudent_eq_map_resolved, Course.resolved_weighing]
  rfl

/-- **Final marks that are not finite:** no points times an infinite weight are not a number, and
full marks times a finite weight are infinite if the weight is large enough. -/
theorem finalMark_overweight :
    (∃ report, Course.build (.weighing (.infinity false)) = .ok (.weighing (.infinity false)) ∧
      gradeStudent (.weighing (.infinity false)) default .newcomer = .ok report ∧
      report.finalMark.isNaN = true) ∧
    ∃ report, Course.build (.weighing .heavy) = .ok (.weighing .heavy) ∧
      Binary64.heavy.isFinite = true ∧
      gradeStudent (.weighing .heavy) default .fullMarks = .ok report ∧
      report.finalMark.isInfinite = true :=
  ⟨⟨_, by decide, gradeStudent_weighing .., by decide +kernel⟩,
    _, by decide, by decide, gradeStudent_weighing .., by decide +kernel⟩

end Gradebook
