/-
# What building a course establishes

`Course.build` accepts consistent parts and refuses all others with the error of the first check
that fails (`Course.build_of_consistent`, `Course.build_of_refused`). The greatest scores are
worked out by adding one task group after the other; what is found under a name after that is
the scoring group that was there before with the nominal scores of the task groups that refer to
the name (`Course.Tallied`).

A course that was built is *sound*: everything that grading looks up in it is there.
-/

import Gradebook.Grading
import Gradebook.Proofs.Course.Consistency
import Mathlib.Data.List.Forall2

namespace Gradebook
namespace Course

/-! ## Resolving -/

theorem resolve_eq_ok_iff {c : Course} {g : TaskGroup} {scoring : Scoring} :
    c.resolve g = .ok scoring ↔
      c.scoringGroups.find? (c.scoringGroupName g) = some scoring.group ∧
        c.policies.find? scoring.group.policy = some scoring.policy := by
  unfold resolve
  constructor
  · intro h
    split at h
    · cases h
    · next group found =>
      split at h
      · cases h
      · next policy known =>
        cases h
        exact ⟨found, known⟩
  · rintro ⟨found, known⟩
    simp only [found, known]

theorem resolve_of_find?_eq_none {c : Course} {g : TaskGroup}
    (h : c.scoringGroups.find? (c.scoringGroupName g) = none) :
    c.resolve g = .error (.unknownScoringGroup g.title (c.scoringGroupName g)) := by
  rw [resolve, h]

/-- Every scoring group names a policy that exists. -/
def KnowsPolicies (c : Course) : Prop :=
  ∀ name group, c.scoringGroups.find? name = some group →
    (c.policies.find? group.policy).isSome = true

theorem KnowsPolicies.resolve_of_find?_eq_some {c : Course} (known : c.KnowsPolicies)
    {g : TaskGroup} {group : ScoringGroup}
    (h : c.scoringGroups.find? (c.scoringGroupName g) = some group) :
    ∃ policy, c.resolve g = .ok ⟨group, policy⟩ := by
  obtain ⟨policy, found⟩ := Option.isSome_iff_exists.1 (known _ _ h)
  exact ⟨policy, resolve_eq_ok_iff.2 ⟨h, found⟩⟩

/-! ## Adding up nominal scores -/

/-- The nominal scores of those of some task groups that refer to a name. -/
def nominalTotalOf (c : Course) (groups : List TaskGroup) (name : String) : Nat :=
  total ((groups.filter fun g => c.scoringGroupName g = name).map (·.nominalTotal))

/-- **A course after the nominal scores of task groups were added.** All but the greatest scores
is as before. -/
structure Tallied (c : Course) (groups : List TaskGroup) (d : Course) : Prop where
  frame : d = { c with scoringGroups := d.scoringGroups }
  found : ∀ name, d.scoringGroups.find? name = (c.scoringGroups.find? name).map fun group =>
    { group with maxScore := group.maxScore + c.nominalTotalOf groups name }

namespace Tallied

variable {c d e : Course} {groups : List TaskGroup}

theorem scoringGroupName (h : Tallied c groups d) (g : TaskGroup) :
    d.scoringGroupName g = c.scoringGroupName g := by
  rw [h.frame]
  rfl

theorem policies (h : Tallied c groups d) : d.policies = c.policies := by
  rw [h.frame]

theorem knowsPolicies (h : Tallied c groups d) (known : c.KnowsPolicies) : d.KnowsPolicies := by
  intro name group found
  rw [h.found, Option.map_eq_some_iff] at found
  obtain ⟨before, found, rfl⟩ := found
  rw [h.policies]
  exact known name before found

protected theorem refl (c : Course) : Tallied c [] c where
  frame := rfl
  found name := by simp [nominalTotalOf]

theorem cons {g : TaskGroup} (h : Tallied c [g] d) (t : Tallied d groups e) :
    Tallied c (g :: groups) e where
  frame := by rw [t.frame, h.frame]
  found name := by
    have same : d.nominalTotalOf groups name = c.nominalTotalOf groups name := by
      simp only [nominalTotalOf, h.scoringGroupName]
    rw [t.found, h.found, Option.map_map, same]
    congr 1
    funext group
    by_cases refers : c.scoringGroupName g = name <;>
      simp [nominalTotalOf, refers, Nat.add_assoc]

end Tallied

/-- Adding one task group changes the scoring group that it refers to. -/
theorem addTotal_of_find?_eq_some {c : Course} (known : c.KnowsPolicies) {g : TaskGroup}
    {group : ScoringGroup} (h : c.scoringGroups.find? (c.scoringGroupName g) = some group) :
    ∃ d, addTotal c g = .ok d ∧ Tallied c [g] d := by
  obtain ⟨policy, resolved⟩ := known.resolve_of_find?_eq_some h
  refine ⟨_, by rw [addTotal, resolved]; rfl, rfl, fun name => ?_⟩
  rw [NameMap.find?_insert]
  by_cases refers : name = c.scoringGroupName g
  · simp [refers, h, nominalTotalOf]
  · have : c.nominalTotalOf [g] name = 0 := by simp [nominalTotalOf, Ne.symm refers]
    simp [refers, this]

theorem foldlM_addTotal {c : Course} (known : c.KnowsPolicies) {groups : List TaskGroup}
    (exist : ∀ g ∈ groups, (c.scoringGroups.find? (c.scoringGroupName g)).isSome = true) :
    ∃ d, groups.foldlM addTotal c = .ok d ∧ Tallied c groups d := by
  induction groups generalizing c with
  | nil => exact ⟨c, rfl, .refl c⟩
  | cons g groups ih =>
    obtain ⟨group, found⟩ := Option.isSome_iff_exists.1 (exist g List.mem_cons_self)
    obtain ⟨d, added, one⟩ := addTotal_of_find?_eq_some known found
    obtain ⟨e, folded, rest⟩ := ih (one.knowsPolicies known) fun other mem => by
      rw [one.scoringGroupName, one.found, Option.isSome_map]
      exact exist other (List.mem_cons_of_mem _ mem)
    exact ⟨e, by rw [List.foldlM_cons, added]; exact folded, one.cons rest⟩

/-- The first task group whose scoring group does not exist ends the adding. -/
theorem foldlM_addTotal_of_dangling {c : Course} (known : c.KnowsPolicies)
    {before after : List TaskGroup} {g : TaskGroup}
    (exist : ∀ h ∈ before, (c.scoringGroups.find? (c.scoringGroupName h)).isSome = true)
    (dangling : c.scoringGroups.find? (c.scoringGroupName g) = none) :
    (before ++ g :: after).foldlM addTotal c =
      .error (.unknownScoringGroup g.title (c.scoringGroupName g)) := by
  obtain ⟨d, folded, tallied⟩ := foldlM_addTotal known exist
  have unresolved : d.resolve g = .error (.unknownScoringGroup g.title (c.scoringGroupName g)) := by
    rw [← tallied.scoringGroupName]
    apply resolve_of_find?_eq_none
    rw [tallied.scoringGroupName, tallied.found, dangling, Option.map_none]
  rw [List.foldlM_append, folded]
  show (g :: after).foldlM addTotal d = _
  rw [List.foldlM_cons, addTotal, unresolved]
  rfl

/-! ## The outcome of building -/

theorem scoringGroupName_unscored (parts : Parts) (g : TaskGroup) :
    (unscored parts).scoringGroupName g = parts.referredName g := by
  simp [scoringGroupName, Parts.referredName, unscored, String.isEmpty_iff]

theorem isSome_find?_unscored (parts : Parts) (name : String) :
    ((unscored parts).scoringGroups.find? name).isSome = (parts.scoringGroup? name).isSome := by
  rw [find?_unscored, Option.isSome_map]

theorem knowsPolicies_unscored {parts : Parts} (exist : parts.PoliciesExist) :
    (unscored parts).KnowsPolicies := by
  intro name group found
  rw [find?_unscored, Option.map_eq_some_iff] at found
  obtain ⟨listed, found, rfl⟩ := found
  exact exist name listed found

/-- **Consistent parts make a course,** the one before the greatest scores are known with the
nominal scores of all task groups added. -/
theorem build_of_consistent {parts : Parts} (h : parts.Consistent) :
    ∃ c, build parts = .ok c ∧ Tallied (unscored parts) parts.taskGroups c := by
  simp only [build, policyError?_eq_none_iff.2 h.policiesValid,
    retakeError?_eq_none_iff.2 h.retakeRatioValid, duplicateError?_eq_none_iff.2 h.tasksDistinct,
    danglingError?_eq_none_iff.2 h.policiesExist]
  refine foldlM_addTotal (knowsPolicies_unscored h.policiesExist) fun g mem => ?_
  rw [isSome_find?_unscored, scoringGroupName_unscored]
  exact h.scoringGroupsExist g mem

/-- **Refused parts fail with the error that refuses them.** -/
theorem build_of_refused {parts : Parts} {e : CourseError} (h : parts.Refused e) :
    build parts = .error e := by
  cases h with
  | invalidPolicy found faulty first =>
    simp only [build, policyError?_eq_some_iff.2 ⟨_, _, _, found, faulty, first, rfl⟩]
    rfl
  | invalidRetakeRatio policies invalid =>
    simp only [build, policyError?_eq_none_iff.2 policies,
      retakeError?_eq_some_iff.2 ⟨invalid, rfl⟩]
    rfl
  | duplicateTask policies ratio split repeated first =>
    simp only [build, policyError?_eq_none_iff.2 policies, retakeError?_eq_none_iff.2 ratio,
      duplicateError?_eq_some_iff.2 ⟨_, _, _, split, repeated, first, rfl⟩]
    rfl
  | unknownPolicy policies ratio distinct found dangling first =>
    simp only [build, policyError?_eq_none_iff.2 policies, retakeError?_eq_none_iff.2 ratio,
      duplicateError?_eq_none_iff.2 distinct,
      danglingError?_eq_some_iff.2 ⟨_, _, found, dangling, first, rfl⟩]
    rfl
  | @unknownScoringGroup before after g policies ratio distinct exist split dangling first =>
    simp only [build, policyError?_eq_none_iff.2 policies, retakeError?_eq_none_iff.2 ratio,
      duplicateError?_eq_none_iff.2 distinct, danglingError?_eq_none_iff.2 exist]
    rw [split, ← scoringGroupName_unscored]
    refine foldlM_addTotal_of_dangling (knowsPolicies_unscored exist) (fun h mem => ?_) ?_
    · rw [isSome_find?_unscored, scoringGroupName_unscored]
      exact first h mem
    · rw [find?_unscored, scoringGroupName_unscored, dangling, Option.map_none]

end Course
end Gradebook
