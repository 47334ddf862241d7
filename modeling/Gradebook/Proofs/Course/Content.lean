/-
# The content of a course

The plain form of a course has all its dates in universal time and no negative zero. Nothing else is
lost in it, so it is what a course says. Courses are compared part by part (`Course.same`), with
dates as instants and fractions as numbers, and that finds two courses the same exactly if their
plain forms are equal and their fractions are numbers at all (`Course.same_iff`). The fractions of
a course that was built are numbers, its weights aside (`Course.numeric_of_build_eq_ok`).
-/

import Gradebook.Proofs.Course.Soundness
import Gradebook.Proofs.Binary64.Bounds

namespace Gradebook

/-! ## Plain forms -/

/-- A number without the sign of a zero. -/
def Binary64.plain (x : Binary64) : Binary64 := if x.isZero then zero else x

/-- A date in universal time. -/
def LocalInstant.plain (a : LocalInstant) : LocalInstant := { a with offset := 0 }

def TaskGroup.plain (g : TaskGroup) : TaskGroup :=
  { g with start := g.start.plain, deadline := g.deadline.plain }

def Policy.plain : Policy → Policy
  | exponential halfLife floor => exponential halfLife floor.plain
  | linear grace floor => linear grace floor.plain

def ScoringGroup.plain (g : ScoringGroup) : ScoringGroup := { g with weight := g.weight.plain }

/-- A map with other values under its names. -/
def NameMap.map {α β : Type} (f : α → β) (m : NameMap α) : NameMap β where
  entries := m.entries.map fun entry => (entry.1, f entry.2)
  ascending := by
    rw [Ascending, List.pairwise_map]
    exact m.ascending

/-- **What a course says.** -/
def Course.plain (c : Course) : Course where
  taskGroups := c.taskGroups.map TaskGroup.plain
  policies := c.policies.map Policy.plain
  scoringGroups := c.scoringGroups.map ScoringGroup.plain
  defaultScoringGroup := c.defaultScoringGroup
  finalDeadline := c.finalDeadline.map LocalInstant.plain
  retakeRatio := c.retakeRatio.plain

/-! ## Comparing numbers, dates and policies -/

namespace Binary64

variable {x y : Binary64}

theorem isZero_iff : x.isZero = true ↔ x.magnitude = 0 := decide_eq_true_iff

theorem isZero_iff_numericKey : x.isZero = true ↔ x.numericKey = 0 := by
  rw [isZero_iff, numericKey]
  split <;> omega

theorem numericKey_plain (x : Binary64) : x.plain.numericKey = x.numericKey := by
  unfold plain
  split
  · next none => exact (isZero_iff_numericKey.1 none).symm
  · rfl

theorem isNaN_plain (x : Binary64) : x.plain.isNaN = x.isNaN := by
  unfold plain
  split
  · next none =>
    rw [isNaN, isNaN, isZero_iff.1 none]
    rfl
  · rfl

/-- Equal order codes are equal data, zeros aside. -/
theorem eq_of_numericKey_eq (some : x.isZero = false) (h : x.numericKey = y.numericKey) :
    x = y := by
  have nonzero : x.magnitude ≠ 0 := of_decide_eq_false some
  refine totalKey_injective ?_
  obtain ⟨negX, magX, _⟩ := x
  obtain ⟨negY, magY, _⟩ := y
  cases negX <;> cases negY <;> simp [numericKey, totalKey] at h nonzero ⊢ <;> omega

theorem plain_eq_iff : x.plain = y.plain ↔ x.numericKey = y.numericKey := by
  constructor
  · intro h
    rw [← numericKey_plain x, h, numericKey_plain]
  · intro h
    cases none : x.isZero with
    | true =>
      have other : y.isZero = true := by rwa [isZero_iff_numericKey, ← h, ← isZero_iff_numericKey]
      rw [plain, plain, if_pos none, if_pos other]
    | false => rw [eq_of_numericKey_eq none h]

/-- **Data are equal as numbers if they are numbers of one plain form.** -/
theorem numericEq_iff : x.numericEq y = true ↔ x.isNaN = false ∧ x.plain = y.plain := by
  have other : x.plain = y.plain → y.isNaN = x.isNaN := fun h => by
    rw [← isNaN_plain y, ← h, isNaN_plain]
  rw [numericEq, Bool.and_eq_true, Bool.and_eq_true, Bool.not_eq_true', Bool.not_eq_true',
    decide_eq_true_eq, ← plain_eq_iff]
  constructor
  · rintro ⟨⟨number, -⟩, same⟩
    exact ⟨number, same⟩
  · rintro ⟨number, same⟩
    exact ⟨⟨number, (other same).trans number⟩, same⟩

end Binary64

theorem LocalInstant.same_iff {a b : LocalInstant} : a.same b = true ↔ a.plain = b.plain := by
  simp [same, plain]

theorem TaskGroup.same_iff {a b : TaskGroup} : a.same b = true ↔ a.plain = b.plain := by
  simp only [same, plain, Bool.and_eq_true, decide_eq_true_eq, LocalInstant.same_iff,
    TaskGroup.mk.injEq, and_assoc]

/-- The floor of a policy. -/
def Policy.floor : Policy → Binary64
  | exponential _ floor => floor
  | linear _ floor => floor

theorem Policy.same_iff {p q : Policy} :
    p.same q = true ↔ p.floor.isNaN = false ∧ p.plain = q.plain := by
  cases p <;> cases q <;> simp [same, plain, floor, Binary64.numericEq_iff, and_left_comm]

theorem ScoringGroup.same_iff {a b : ScoringGroup} :
    a.same b = true ↔ a.weight.isNaN = false ∧ a.plain = b.plain := by
  simp only [same, plain, Bool.and_eq_true, decide_eq_true_eq, Binary64.numericEq_iff,
    ScoringGroup.mk.injEq]
  tauto

theorem sameDate?_iff {a b : Option LocalInstant} :
    sameDate? a b = true ↔ a.map LocalInstant.plain = b.map LocalInstant.plain := by
  cases a <;> cases b <;> simp [sameDate?, LocalInstant.same_iff]

/-! ## Comparing lists and maps -/

section

variable {α β : Type} {same : α → α → Bool} {f : α → β}

theorem agreeWith_iff (leaf : ∀ a b, same a b = true ↔ f a = f b) {as bs : List α} :
    agreeWith same as bs = true ↔ as.map f = bs.map f := by
  induction as generalizing bs with
  | nil => cases bs <;> simp [agreeWith]
  | cons a as ih =>
    cases bs with
    | nil => simp [agreeWith]
    | cons b bs =>
      rw [agreeWith, Bool.and_eq_true, leaf, ih, List.map_cons, List.map_cons, List.cons.injEq]

namespace NameMap

theorem find?_map (f : α → β) (m : NameMap α) (name : String) :
    (m.map f).find? name = (m.find? name).map f := by
  obtain ⟨entries, ascending⟩ := m
  show (entries.map fun entry => (entry.1, f entry.2)).lookup name = (entries.lookup name).map f
  clear ascending
  induction entries with
  | nil => rfl
  | cons entry rest ih =>
    rw [List.map_cons, lookup_cons_eq_ite, lookup_cons_eq_ite, ih]
    split <;> rfl

variable {regular : α → Prop}

theorem names_eq_and_all_iff (leaf : ∀ a b, same a b = true ↔ regular a ∧ f a = f b)
    {xs ys : List (String × α)} :
    xs.map (·.1) = ys.map (·.1) ∧
        ((xs.map (·.2)).zip (ys.map (·.2))).all (fun (a, b) => same a b) = true ↔
      (∀ x ∈ xs, regular x.2) ∧
        xs.map (fun entry => (entry.1, f entry.2)) = ys.map fun entry => (entry.1, f entry.2) := by
  induction xs generalizing ys with
  | nil => cases ys <;> simp
  | cons x xs ih =>
    cases ys with
    | nil => simp
    | cons y ys =>
      have tail := @ih ys
      simp only [List.map_cons, List.cons.injEq, List.zip_cons_cons, List.all_cons,
        List.forall_mem_cons, Bool.and_eq_true, Prod.mk.injEq, leaf]
      tauto

/-- **Maps agree if they find regular values of one form** under every name. -/
theorem agree_iff (leaf : ∀ a b, same a b = true ↔ regular a ∧ f a = f b) {m n : NameMap α} :
    m.agree same n = true ↔
      (∀ name a, m.find? name = some a → regular a) ∧ m.map f = n.map f := by
  have entries : (∀ name a, m.find? name = some a → regular a) ↔ ∀ x ∈ m.entries, regular x.2 := by
    simp only [find?_eq_some_iff, Prod.forall]
  rw [entries, agree, Bool.and_eq_true, decide_eq_true_eq, map, map, NameMap.mk.injEq]
  exact names_eq_and_all_iff leaf

theorem map_eq_iff {m n : NameMap α} :
    m.map f = n.map f ↔ ∀ name, (m.find? name).map f = (n.find? name).map f := by
  constructor
  · intro h name
    rw [← find?_map, h, find?_map]
  · intro h
    refine ext fun name => ?_
    rw [find?_map, find?_map, h name]

end NameMap

end

/-! ## Comparing courses -/

/-- All weights of a course are numbers. -/
def Course.Weighed (c : Course) : Prop :=
  ∀ name group, c.scoringGroups.find? name = some group → group.weight.isNaN = false

/-- **A course whose fractions are numbers.** -/
structure Course.Numeric (c : Course) : Prop where
  floors : ∀ name policy, c.policies.find? name = some policy → policy.floor.isNaN = false
  weights : c.Weighed
  retakeRatio : c.retakeRatio.isNaN = false

/-- **Courses are the same if their fractions are numbers and their plain forms are equal.** -/
theorem Course.same_iff {a b : Course} : a.same b = true ↔ a.Numeric ∧ a.plain = b.plain := by
  have groups : agreeWith TaskGroup.same a.taskGroups b.taskGroups = true ↔
      a.taskGroups.map TaskGroup.plain = b.taskGroups.map TaskGroup.plain :=
    agreeWith_iff fun a b => TaskGroup.same_iff (a := a) (b := b)
  have policies := NameMap.agree_iff (fun p q => Policy.same_iff (p := p) (q := q))
    (m := a.policies) (n := b.policies)
  have scoringGroups := NameMap.agree_iff (fun a b => ScoringGroup.same_iff (a := a) (b := b))
    (m := a.scoringGroups) (n := b.scoringGroups)
  simp only [same, Bool.and_eq_true, decide_eq_true_eq, groups, policies, scoringGroups,
    sameDate?_iff, Binary64.numericEq_iff, plain, Course.mk.injEq]
  constructor
  · rintro ⟨⟨⟨⟨⟨groups, floors, policies⟩, weights, scored⟩, default⟩, cutoff⟩, number, ratio⟩
    exact ⟨⟨floors, weights, number⟩, groups, policies, scored, default, cutoff, ratio⟩
  · rintro ⟨⟨floors, weights, number⟩, groups, policies, scored, default, cutoff, ratio⟩
    exact ⟨⟨⟨⟨⟨groups, floors, policies⟩, weights, scored⟩, default⟩, cutoff⟩, number, ratio⟩

/-! ## The fractions of a course that was built -/

/-- A floor that passes its check is a number. -/
theorem Policy.isNaN_floor_of_fault?_eq_none {p : Policy} (faultless : p.fault? = none) :
    p.floor.isNaN = false := by
  cases p with
  | exponential halfLife floor =>
    have within : Binary64.zero.le floor = true := by
      simp only [fault?] at faultless
      split at faultless
      · cases faultless
      · split at faultless
        · next within => exact (Bool.and_eq_true_iff.1 within).1
        · cases faultless
    have number := (Bool.and_eq_true_iff.1 (Bool.and_eq_true_iff.1 within).1).2
    rwa [Bool.not_eq_true'] at number
  | linear grace floor =>
    have finite : floor.isFinite = true := by
      simp only [fault?] at faultless
      split at faultless
      · cases faultless
      · split at faultless
        · cases faultless
        · next sound =>
          by_contra extreme
          simp [extreme] at sound
    exact Binary64.isNaN_of_isFinite finite

theorem Course.numeric_of_build_eq_ok {parts : Parts} {c : Course} (built : build parts = .ok c)
    (weighed : c.Weighed) : c.Numeric := by
  obtain ⟨consistent, tallied⟩ := tallied_of_build_eq_ok built
  have made := madeFrom_of_tallied tallied
  exact
    { floors := fun name policy found => by
        rw [made.policies] at found
        exact Policy.isNaN_floor_of_fault?_eq_none (consistent.policiesValid name policy found)
      weights := weighed
      retakeRatio := by
        rw [made.retakeRatio]
        exact Binary64.isNaN_of_isFinite consistent.retakeRatioValid.1 }

end Gradebook
