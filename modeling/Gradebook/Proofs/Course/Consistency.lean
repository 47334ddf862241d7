/-
# Consistent parts of a course

The parts of a course are consistent if they pass five checks. Each check is stated here of the
parts as they are given, without regard to how `Course.build` looks for a fault:

| check | its first failure is looked for | its error |
| --- | --- | --- |
| no policy has a fault | by name of the policy | `invalidPolicy` |
| the retake ratio is finite and not below zero | | `invalidRetakeRatio` |
| no task has the identifier of an earlier one | in the order of the document | `duplicateTask` |
| every scoring group names a policy that exists | by name of the scoring group | `unknownPolicy` |
| every task group refers to a scoring group that exists | in the order of the document | `unknownScoringGroup` |

`Parts.Refused` is the error of the first check that fails. Parts are consistent or refused
(`Parts.consistent_or_refused`), and the functions that look for a fault find one exactly when
the check fails (`policyError?_eq_some_iff` and the like).
-/

import Gradebook.Course.Build
import Mathlib.Tactic.Common

namespace Gradebook
namespace Course
namespace Parts

/-- The scoring group of a name; of several the one listed last. -/
def scoringGroup? (parts : Parts) (name : String) : Option ScoringGroup :=
  parts.scoringGroups.reverse.find? fun g => g.name = name

/-- The name of the scoring group that a task group refers to. -/
def referredName (parts : Parts) (g : TaskGroup) : String :=
  if g.scoringGroup = "" then parts.defaultScoringGroup else g.scoringGroup

/-! ## The checks -/

section

variable (parts : Parts)

def PoliciesValid : Prop :=
  ∀ name policy, parts.policies.find? name = some policy → policy.fault? = none

def RetakeRatioValid : Prop :=
  parts.retakeRatio.isFinite = true ∧ parts.retakeRatio.lt Binary64.zero = false

def TasksDistinct : Prop := (taskIds parts.taskGroups).Nodup

def PoliciesExist : Prop :=
  ∀ name group, parts.scoringGroup? name = some group →
    (parts.policies.find? group.policy).isSome = true

def ScoringGroupsExist : Prop :=
  ∀ g ∈ parts.taskGroups, (parts.scoringGroup? (parts.referredName g)).isSome = true

/-- **Consistent parts** pass every check. -/
structure Consistent : Prop where
  policiesValid : parts.PoliciesValid
  retakeRatioValid : parts.RetakeRatioValid
  tasksDistinct : parts.TasksDistinct
  policiesExist : parts.PoliciesExist
  scoringGroupsExist : parts.ScoringGroupsExist

/-- **The error of the first check that fails,** and within that check of its first failure. -/
inductive Refused : CourseError → Prop
  | invalidPolicy {name : String} {policy : Policy} {fault : Policy.Fault}
      (found : parts.policies.find? name = some policy) (faulty : policy.fault? = some fault)
      (first : ∀ other < name, ∀ p, parts.policies.find? other = some p → p.fault? = none) :
      Refused (.invalidPolicy name fault.message)
  | invalidRetakeRatio (policiesValid : parts.PoliciesValid)
      (invalid : ¬ parts.RetakeRatioValid) :
      Refused (.invalidRetakeRatio parts.retakeRatio)
  | duplicateTask {before after : List String} {id : String}
      (policiesValid : parts.PoliciesValid) (retakeRatioValid : parts.RetakeRatioValid)
      (split : taskIds parts.taskGroups = before ++ id :: after) (repeated : id ∈ before)
      (first : before.Nodup) :
      Refused (.duplicateTask id)
  | unknownPolicy {name : String} {group : ScoringGroup}
      (policiesValid : parts.PoliciesValid) (retakeRatioValid : parts.RetakeRatioValid)
      (tasksDistinct : parts.TasksDistinct) (found : parts.scoringGroup? name = some group)
      (dangling : parts.policies.find? group.policy = none)
      (first : ∀ other < name, ∀ g, parts.scoringGroup? other = some g →
        (parts.policies.find? g.policy).isSome = true) :
      Refused (.unknownPolicy name group.policy)
  | unknownScoringGroup {before after : List TaskGroup} {g : TaskGroup}
      (policiesValid : parts.PoliciesValid) (retakeRatioValid : parts.RetakeRatioValid)
      (tasksDistinct : parts.TasksDistinct) (policiesExist : parts.PoliciesExist)
      (split : parts.taskGroups = before ++ g :: after)
      (dangling : parts.scoringGroup? (parts.referredName g) = none)
      (first : ∀ h ∈ before, (parts.scoringGroup? (parts.referredName h)).isSome = true) :
      Refused (.unknownScoringGroup g.title (parts.referredName g))

end

end Parts

/-! ## Looking for a fault -/

theorem policyError?_eq_none_iff {parts : Parts} :
    policyError? parts.policies = none ↔ parts.PoliciesValid := by
  rw [policyError?, NameMap.findSome?_entries_eq_none_iff]
  simp only [Option.map_eq_none_iff, Parts.PoliciesValid]

theorem policyError?_eq_some_iff {policies : NameMap Policy} {e : CourseError} :
    policyError? policies = some e ↔
      ∃ name policy fault, policies.find? name = some policy ∧ policy.fault? = some fault ∧
        (∀ other < name, ∀ p, policies.find? other = some p → p.fault? = none) ∧
        e = .invalidPolicy name fault.message := by
  rw [policyError?, NameMap.findSome?_entries_eq_some_iff]
  simp only [Option.map_eq_some_iff, Option.map_eq_none_iff]
  constructor
  · rintro ⟨name, policy, found, ⟨fault, faulty, rfl⟩, first⟩
    exact ⟨name, policy, fault, found, faulty, first, rfl⟩
  · rintro ⟨name, policy, fault, found, faulty, first, rfl⟩
    exact ⟨name, policy, found, ⟨fault, faulty, rfl⟩, first⟩

theorem retakeError?_eq_none_iff {parts : Parts} :
    retakeError? parts.retakeRatio = none ↔ parts.RetakeRatioValid := by
  simp [retakeError?, Parts.RetakeRatioValid]

theorem retakeError?_eq_some_iff {parts : Parts} {e : CourseError} :
    retakeError? parts.retakeRatio = some e ↔
      ¬ parts.RetakeRatioValid ∧ e = .invalidRetakeRatio parts.retakeRatio := by
  rw [← retakeError?_eq_none_iff, retakeError?]
  split <;> simp [eq_comm]

/-- An identifier is found if it was seen or comes after itself, and the first such one is. -/
theorem firstRepeated_eq_some_iff {seen ids : List String} {id : String} :
    firstRepeated seen ids = some id ↔
      ∃ before after, ids = before ++ id :: after ∧ (id ∈ seen ∨ id ∈ before) ∧ before.Nodup ∧
        ∀ other ∈ before, other ∉ seen := by
  induction ids generalizing seen with
  | nil => simp [firstRepeated]
  | cons head rest ih =>
    rw [firstRepeated]
    split
    · next mem =>
      constructor
      · rintro ⟨⟩
        exact ⟨[], rest, rfl, .inl mem, List.nodup_nil, by simp⟩
      · rintro ⟨before, after, split, -, -, fresh⟩
        cases before with
        | nil => exact congrArg some (List.cons.inj split).1
        | cons other before =>
          have eq : head = other := (List.cons.inj split).1
          exact absurd mem (eq ▸ fresh other List.mem_cons_self)
    · next unseen =>
      rw [ih]
      constructor
      · rintro ⟨before, after, rfl, repeated, distinct, fresh⟩
        have notHead : head ∉ before := fun mem => fresh head mem List.mem_cons_self
        refine ⟨head :: before, after, rfl, by simpa [or_assoc, or_left_comm] using repeated,
          List.nodup_cons.2 ⟨notHead, distinct⟩, fun other mem => ?_⟩
        rcases List.mem_cons.1 mem with rfl | mem
        · exact unseen
        · exact fun seen => fresh other mem (List.mem_cons_of_mem _ seen)
      · rintro ⟨before, after, split, repeated, distinct, fresh⟩
        cases before with
        | nil =>
          have eq : head = id := (List.cons.inj split).1
          simp [← eq, unseen] at repeated
        | cons other before =>
          obtain ⟨rfl, rfl⟩ := List.cons.inj split
          have ⟨notHead, distinct⟩ := List.nodup_cons.1 distinct
          refine ⟨before, after, rfl, by simpa [or_assoc, or_left_comm] using repeated, distinct,
            fun other mem seen => ?_⟩
          rcases List.mem_cons.1 seen with rfl | seen
          · exact notHead mem
          · exact fresh other (List.mem_cons_of_mem _ mem) seen

theorem firstRepeated_eq_none_iff {seen ids : List String} :
    firstRepeated seen ids = none ↔ ids.Nodup ∧ ∀ id ∈ ids, id ∉ seen := by
  induction ids generalizing seen with
  | nil => simp [firstRepeated]
  | cons head rest ih =>
    rw [firstRepeated]
    split
    · next mem => simp [mem]
    · next unseen =>
      rw [ih, List.nodup_cons]
      constructor
      · rintro ⟨distinct, fresh⟩
        refine ⟨⟨fun mem => fresh head mem List.mem_cons_self, distinct⟩, fun id mem => ?_⟩
        rcases List.mem_cons.1 mem with rfl | mem
        · exact unseen
        · exact fun seen => fresh id mem (List.mem_cons_of_mem _ seen)
      · rintro ⟨⟨notHead, distinct⟩, fresh⟩
        refine ⟨distinct, fun id mem seen => ?_⟩
        rcases List.mem_cons.1 seen with rfl | seen
        · exact notHead mem
        · exact fresh id (List.mem_cons_of_mem _ mem) seen

theorem duplicateError?_eq_none_iff {parts : Parts} :
    duplicateError? parts.taskGroups = none ↔ parts.TasksDistinct := by
  simp [duplicateError?, firstRepeated_eq_none_iff, Parts.TasksDistinct]

theorem duplicateError?_eq_some_iff {groups : List TaskGroup} {e : CourseError} :
    duplicateError? groups = some e ↔
      ∃ before after id, taskIds groups = before ++ id :: after ∧ id ∈ before ∧ before.Nodup ∧
        e = .duplicateTask id := by
  simp only [duplicateError?, Option.map_eq_some_iff, firstRepeated_eq_some_iff]
  constructor
  · rintro ⟨id, ⟨before, after, split, repeated, distinct, -⟩, rfl⟩
    exact ⟨before, after, id, split, by simpa using repeated, distinct, rfl⟩
  · rintro ⟨before, after, id, split, repeated, distinct, rfl⟩
    exact ⟨id, ⟨before, after, split, .inr repeated, distinct, by simp⟩, rfl⟩

/-- Before the greatest scores are known a name has the scoring group listed last under it. -/
theorem find?_unscored (parts : Parts) (name : String) :
    (unscored parts).scoringGroups.find? name =
      (parts.scoringGroup? name).map fun g => { g with maxScore := 0 } := by
  rw [unscored, NameMap.find?_ofList, ← List.map_reverse, Parts.scoringGroup?]
  induction parts.scoringGroups.reverse with
  | nil => rfl
  | cons g rest ih =>
    rw [List.map_cons, NameMap.lookup_cons_eq_ite, ih, List.find?_cons]
    by_cases h : g.name = name
    · simp [h]
    · simp [h, Ne.symm h]

theorem danglingError?_eq_none_iff {parts : Parts} :
    danglingError? parts.policies (unscored parts).scoringGroups = none ↔ parts.PoliciesExist := by
  rw [danglingError?, NameMap.findSome?_entries_eq_none_iff]
  simp only [ite_eq_left_iff, reduceCtorEq, imp_false, not_not]
  simp only [find?_unscored, Option.map_eq_some_iff, NameMap.contains]
  constructor
  · intro h name group found
    exact h name { group with maxScore := 0 } ⟨group, found, rfl⟩
  · rintro h name _ ⟨group, found, rfl⟩
    exact h name group found

theorem danglingError?_eq_some_iff {parts : Parts} {e : CourseError} :
    danglingError? parts.policies (unscored parts).scoringGroups = some e ↔
      ∃ name group, parts.scoringGroup? name = some group ∧
        parts.policies.find? group.policy = none ∧
        (∀ other < name, ∀ g, parts.scoringGroup? other = some g →
          (parts.policies.find? g.policy).isSome = true) ∧
        e = .unknownPolicy name group.policy := by
  rw [danglingError?, NameMap.findSome?_entries_eq_some_iff]
  simp only [ite_eq_left_iff, Option.ite_none_left_eq_some, Option.some.injEq, reduceCtorEq,
    imp_false, not_not]
  simp only [find?_unscored, Option.map_eq_some_iff, NameMap.contains, Bool.not_eq_true,
    Option.isSome_eq_false_iff, Option.isNone_iff_eq_none]
  constructor
  · rintro ⟨name, _, ⟨group, found, rfl⟩, ⟨dangling, rfl⟩, first⟩
    exact ⟨name, group, found, dangling,
      fun other lt g hg => first other lt { g with maxScore := 0 } ⟨g, hg, rfl⟩, rfl⟩
  · rintro ⟨name, group, found, dangling, first, rfl⟩
    refine ⟨name, _, ⟨group, found, rfl⟩, ⟨dangling, rfl⟩, ?_⟩
    rintro other lt _ ⟨g, hg, rfl⟩
    exact first other lt g hg

/-! ## Consistent or refused -/

namespace Parts

theorem scoringGroupsExist_or_dangling (parts : Parts) :
    parts.ScoringGroupsExist ∨ ∃ before g after, parts.taskGroups = before ++ g :: after ∧
      parts.scoringGroup? (parts.referredName g) = none ∧
      ∀ h ∈ before, (parts.scoringGroup? (parts.referredName h)).isSome = true := by
  cases dangling : parts.taskGroups.find? fun g =>
      (parts.scoringGroup? (parts.referredName g)).isNone with
  | none =>
    refine .inl fun g mem => ?_
    simpa [Option.isSome_iff_ne_none] using List.find?_eq_none.1 dangling g mem
  | some g =>
    obtain ⟨none, before, after, split, first⟩ := List.find?_eq_some_iff_append.1 dangling
    refine .inr ⟨before, g, after, split, by simpa using none, fun h mem => ?_⟩
    simpa [Option.isSome_iff_ne_none] using first h mem

/-- **Parts are consistent or refused.** -/
theorem consistent_or_refused (parts : Parts) : parts.Consistent ∨ ∃ e, parts.Refused e := by
  cases policy : policyError? parts.policies with
  | some e =>
    obtain ⟨name, p, fault, found, faulty, first, rfl⟩ := policyError?_eq_some_iff.1 policy
    exact .inr ⟨_, .invalidPolicy found faulty first⟩
  | none =>
    have policiesValid := policyError?_eq_none_iff.1 policy
    by_cases retakeRatioValid : parts.RetakeRatioValid
    swap
    · exact .inr ⟨_, .invalidRetakeRatio policiesValid retakeRatioValid⟩
    cases duplicate : duplicateError? parts.taskGroups with
    | some e =>
      obtain ⟨before, after, id, split, repeated, first, rfl⟩ :=
        duplicateError?_eq_some_iff.1 duplicate
      exact .inr ⟨_, .duplicateTask policiesValid retakeRatioValid split repeated first⟩
    | none =>
      have tasksDistinct := duplicateError?_eq_none_iff.1 duplicate
      cases dangling : danglingError? parts.policies (unscored parts).scoringGroups with
      | some e =>
        obtain ⟨name, group, found, none, first, rfl⟩ := danglingError?_eq_some_iff.1 dangling
        exact .inr ⟨_, .unknownPolicy policiesValid retakeRatioValid tasksDistinct found none
          first⟩
      | none =>
        have policiesExist := danglingError?_eq_none_iff.1 dangling
        rcases parts.scoringGroupsExist_or_dangling with exist | ⟨before, g, after, split, none,
          first⟩
        · exact .inl ⟨policiesValid, retakeRatioValid, tasksDistinct, policiesExist, exist⟩
        · exact .inr ⟨_, .unknownScoringGroup policiesValid retakeRatioValid tasksDistinct
            policiesExist split none first⟩

end Parts
end Course
end Gradebook
