/-
# Which record is the evidence

`Evidence.gather` goes through the records and keeps one for each task, so what it has kept is
known from the order of its steps. Here it is said from the records alone: the pipeline for a task
is one of those listed for it that no other beats, and the first such in the list, and the flag is
the one of the claimed flags for it that was created first (`Evidence.gather_best`). Both
are `IsFirstOfBest` for an order that is spelled out on the records, `Pipeline.Beats` and
`Flag.Precedes`. The orders by which the records are kept are the same
(`Pipeline.isGE_compareEvidence_eq_false_iff`, `Flag.isLE_compareAge_eq_false_iff`).
-/

import Gradebook.Proofs.Grading.Evidence

namespace Gradebook

/-! ## The orders of records -/

/-- The place of a verdict, from the worst to the best. -/
def Verdict.place : Verdict → Nat
  | banned => 0
  | failed | canceled => 1
  | pending | running => 2
  | success => 3

/-- **A pipeline beats another** by a better verdict, by an earlier start where the verdicts have
the same place, and by a lesser identifier where the start is the same too. -/
def Pipeline.Beats (p q : Pipeline) : Prop :=
  q.verdict.place < p.verdict.place ∨
    q.verdict.place = p.verdict.place ∧
      (p.startedAt.lt q.startedAt = true ∨ p.startedAt = q.startedAt ∧ p.id < q.id)

/-- **A flag precedes another** that was created later, or at the same time with a greater
identifier. -/
def Flag.Precedes (f g : Flag) : Prop :=
  f.createdAt.lt g.createdAt = true ∨ f.createdAt = g.createdAt ∧ f.id < g.id

theorem TaskStatus.compare_rank_ofVerdict (v w : Verdict) :
    compare (ofVerdict v).rank (ofVerdict w).rank = compare v.place w.place := by
  cases v <;> cases w <;> rfl

namespace Instant

theorem lt_iff {a b : Instant} : a.lt b = true ↔ a.compare b = .lt := Ordering.isLT_iff_eq_lt

theorem compare_eq_eq_iff {a b : Instant} : a.compare b = .eq ↔ a = b :=
  ⟨eq_of_compare_eq, fun same => same ▸ Std.ReflCmp.compare_self⟩

theorem le_of_lt_eq_false {a b : Instant} (h : a.lt b = false) : b.le a = true := by
  refine Std.OrientedCmp.isLE_of_isGE ?_
  cases order : a.compare b with
  | lt =>
    rw [lt_iff.2 order] at h
    cases h
  | eq => rfl
  | gt => rfl

theorem lt_of_lt_of_le {a b c : Instant} (less : a.lt b = true) (le : b.le c = true) :
    a.lt c = true := by
  rw [lt_iff] at less ⊢
  exact Std.TransCmp.lt_of_lt_of_isLE less le

end Instant

/-- The order by which pipelines are kept puts one below another exactly if the other beats it. -/
theorem Pipeline.isGE_compareEvidence_eq_false_iff {p q : Pipeline} :
    (q.compareEvidence p).isGE = false ↔ p.Beats q := by
  rw [Ordering.isGE_eq_false, compareEvidence, Ordering.then_eq_lt, Ordering.then_eq_lt,
    TaskStatus.compare_rank_ofVerdict, Nat.compare_eq_lt, Nat.compare_eq_eq, ← Instant.lt_iff,
    Instant.compare_eq_eq_iff, show compare p.id q.id = .lt ↔ p.id < q.id from Std.compare_eq_lt]
  rfl

/-- The order by which flags are kept puts one above another exactly if the other precedes it. -/
theorem Flag.isLE_compareAge_eq_false_iff {f g : Flag} :
    (g.compareAge f).isLE = false ↔ f.Precedes g := by
  have turned : g.compareAge f = .gt ↔ f.compareAge g = .lt := Std.OrientedCmp.gt_iff_lt
  rw [Ordering.isLE_eq_false, turned, compareAge, Ordering.then_eq_lt, ← Instant.lt_iff,
    Instant.compare_eq_eq_iff,
    show compare f.id g.id = .lt ↔ f.id < g.id from compareOfLessAndEq_eq_lt]
  rfl

/-! ## The first of the best -/

/-- **The first of the best records that a test keeps:** no other that is kept beats it, and it
beats all that are kept and come before it. -/
def IsFirstOfBest {α : Type} (keeps : α → Prop) (beats : α → α → Prop) (records : List α)
    (best : α) : Prop :=
  keeps best ∧ (∀ r ∈ records, keeps r → ¬ beats r best) ∧
    ∃ before after, records = before ++ best :: after ∧ ∀ r ∈ before, keeps r → beats best r

theorem IsFirstOfBest.mem {α : Type} {keeps : α → Prop} {beats : α → α → Prop} {records : List α}
    {best : α} (first : IsFirstOfBest keeps beats records best) : best ∈ records := by
  obtain ⟨-, -, before, after, rfl, -⟩ := first
  exact List.mem_append_right _ List.mem_cons_self

section

variable {α : Type} {prefers : α → α → Bool} {records : List α}

/-- A record that is preferred to all after it is the later one, if nothing before the later one is
preferred to that. -/
theorem eq_of_cons_eq_append {x y : α} {between afterX afterY : List α}
    (split : x :: afterX = between ++ y :: afterY) (worse : ∀ r ∈ between, prefers r y = false)
    (above : ∀ r ∈ afterX, prefers x r = true) : x = y := by
  cases between with
  | nil => exact (List.cons.inj split).1
  | cons z between =>
    obtain ⟨rfl, rfl⟩ := List.cons.inj split
    have below : prefers x y = false := worse x List.mem_cons_self
    rw [above y (List.mem_append_right _ List.mem_cons_self)] at below
    cases below

/-- **There is one first best at most.** -/
theorem IsFirstBest.unique {x y : α} (first : IsFirstBest prefers records x)
    (second : IsFirstBest prefers records y) : x = y := by
  obtain ⟨beforeX, afterX, splitX, worseX, aboveX⟩ := first
  obtain ⟨beforeY, afterY, splitY, worseY, aboveY⟩ := second
  -- Either of the two may come first in the list.
  rcases List.append_eq_append_iff.1 (splitX.symm.trans splitY) with ⟨between, rfl, rest⟩ |
    ⟨between, rfl, rest⟩
  · exact eq_of_cons_eq_append rest (fun r mem => worseY r (List.mem_append_right _ mem)) aboveX
  · exact (eq_of_cons_eq_append rest
      (fun r mem => worseX r (List.mem_append_right _ mem)) aboveY).symm

variable (total : ∀ a b, prefers a b = false → prefers b a = true)

include total

/-- **A record is held in the end exactly if it is the first best.** -/
theorem foldl_takeUnless_eq_some_iff
    (trans : ∀ a b c, prefers a b = true → prefers b c = true → prefers a c = true) {best : α} :
    records.foldl (takeUnless prefers) none = some best ↔ IsFirstBest prefers records best := by
  refine ⟨isFirstBest_of_foldl_eq_some total trans, fun first => ?_⟩
  cases held : records.foldl (takeUnless prefers) none with
  | none =>
    rw [foldl_takeUnless_eq_none_iff.1 held] at first
    exact absurd first.mem List.not_mem_nil
  | some other =>
    exact congrArg some ((isFirstBest_of_foldl_eq_some total trans held).unique first)

/-- The first best of the records that are kept is the first of the best among all. -/
theorem isFirstBest_filter_iff {beats : α → α → Prop}
    (beaten : ∀ {a b}, prefers b a = false ↔ beats a b) (keeps : α → Prop)
    [DecidablePred keeps] {best : α} :
    IsFirstBest prefers (records.filter fun r => keeps r) best ↔
      IsFirstOfBest keeps beats records best := by
  have unbeaten : ∀ {r}, ¬ beats r best ↔ prefers best r = true := by
    intro r
    rw [← beaten, Bool.not_eq_false]
  constructor
  · intro first
    have kept := List.mem_filter.1 first.mem
    refine ⟨of_decide_eq_true kept.2, fun r mem keep => ?_, ?_⟩
    · exact unbeaten.2 (first.prefers_of_mem total (List.mem_filter.2 ⟨mem, decide_eq_true keep⟩))
    · obtain ⟨before, after, split, worse, -⟩ := first
      obtain ⟨left, right, rfl, rfl, tail⟩ := List.filter_eq_append_iff.1 split
      obtain ⟨skipped, after, rfl, dropped, -, rfl⟩ := List.filter_eq_cons_iff.1 tail
      refine ⟨left ++ skipped, after, by simp, fun r mem keep => ?_⟩
      rcases List.mem_append.1 mem with mem | mem
      · exact beaten.1 (worse r (List.mem_filter.2 ⟨mem, decide_eq_true keep⟩))
      · exact absurd (decide_eq_true keep) (dropped r mem)
  · rintro ⟨keep, best, before, after, rfl, worse⟩
    refine ⟨before.filter fun r => keeps r, after.filter fun r => keeps r, by simp [keep], ?_, ?_⟩
    · intro r mem
      obtain ⟨mem, kept⟩ := List.mem_filter.1 mem
      exact beaten.2 (worse r mem (of_decide_eq_true kept))
    · intro r mem
      obtain ⟨mem, kept⟩ := List.mem_filter.1 mem
      exact unbeaten.1 (best r (by simp [mem]) (of_decide_eq_true kept))

end

/-! ## Evidence for a task -/

namespace Evidence

/-- **What the evidence of a student has to say** about the tasks in lists of pipelines and of
flags, which may be those of anyone. -/
structure Reconciled (e : Evidence) (login : String) (pipelines : List Pipeline)
    (flags : List Flag) : Prop where
  hasPipeline : ∀ taskId,
    (e.pipeline? taskId).isSome = true ↔ ∃ p ∈ pipelines, p.taskId = taskId
  pipeline : ∀ taskId p,
    e.pipeline? taskId = some p ↔
      IsFirstOfBest (fun q => q.taskId = taskId) Pipeline.Beats pipelines p
  hasFlag : ∀ taskId,
    (e.flag? taskId).isSome = true ↔ ∃ f ∈ flags, f.taskId = taskId ∧ f.claimedBy = some login
  flag : ∀ taskId f,
    e.flag? taskId = some f ↔
      IsFirstOfBest (fun g => g.taskId = taskId ∧ g.claimedBy = some login) Flag.Precedes flags f
  /-- Proof of a task done elsewhere is a flag and nothing else. -/
  alternate : ∀ taskId,
    e.signal? taskId true = (e.flag? taskId).map fun f => ⟨.success, f.createdAt, .flag f.id⟩
  direct : ∀ taskId p, e.pipeline? taskId = some p →
    e.signal? taskId false = some ⟨.ofVerdict p.verdict, p.startedAt, .pipeline p.id⟩
  /-- Where there is no pipeline a flag counts for any task. -/
  fallback : ∀ taskId, e.pipeline? taskId = none →
    e.signal? taskId false = (e.flag? taskId).map fun f => ⟨.success, f.createdAt, .flag f.id⟩

variable {login : String} {pipelines : List Pipeline} {flags : List Flag} {taskId : String}

theorem pipeline?_gather_eq_some_iff {p : Pipeline} :
    (gather login pipelines flags).pipeline? taskId = some p ↔
      IsFirstOfBest (fun q => q.taskId = taskId) Pipeline.Beats pipelines p := by
  have total := @isGE_of_isGE_eq_false _ Pipeline.compareEvidence _
  rw [pipeline?_gather, foldl_takeUnless_eq_some_iff total fun _ _ _ => Std.TransCmp.isGE_trans]
  exact isFirstBest_filter_iff total Pipeline.isGE_compareEvidence_eq_false_iff _

theorem flag?_gather_eq_some_iff {f : Flag} :
    (gather login pipelines flags).flag? taskId = some f ↔
      IsFirstOfBest (fun g => g.taskId = taskId ∧ g.claimedBy = some login) Flag.Precedes flags
        f := by
  have total := @isLE_of_isLE_eq_false _ Flag.compareAge _
  rw [flag?_gather, foldl_takeUnless_eq_some_iff total fun _ _ _ => Std.TransCmp.isLE_trans,
    List.filter_filter]
  simp only [← Bool.decide_and]
  exact isFirstBest_filter_iff total Flag.isLE_compareAge_eq_false_iff _

theorem isSome_pipeline?_gather :
    ((gather login pipelines flags).pipeline? taskId).isSome = true ↔
      ∃ p ∈ pipelines, p.taskId = taskId := by
  rw [pipeline?_gather, Option.isSome_iff_ne_none, Ne, foldl_takeUnless_eq_none_iff,
    List.filter_eq_nil_iff]
  simp

theorem isSome_flag?_gather :
    ((gather login pipelines flags).flag? taskId).isSome = true ↔
      ∃ f ∈ flags, f.taskId = taskId ∧ f.claimedBy = some login := by
  rw [flag?_gather, Option.isSome_iff_ne_none, Ne, foldl_takeUnless_eq_none_iff,
    List.filter_filter, List.filter_eq_nil_iff]
  simp

theorem reconciled_gather (login : String) (pipelines : List Pipeline) (flags : List Flag) :
    (gather login pipelines flags).Reconciled login pipelines flags where
  hasPipeline _ := isSome_pipeline?_gather
  pipeline _ _ := pipeline?_gather_eq_some_iff
  hasFlag _ := isSome_flag?_gather
  flag _ _ := flag?_gather_eq_some_iff
  alternate _ := rfl
  direct taskId p found := by
    rw [signal?, found]
    rfl
  fallback taskId none := by
    rw [signal?, none]
    rfl

/-- **The evidence of a student is the best there is.** For every task it is the first of the best
pipelines, unless a flag has to prove the task, and else the first flag that the student claimed;
and no order of the records changes what it says. -/
theorem gather_best (login : String) (pipelines : List Pipeline) (flags : List Flag) :
    (gather login pipelines flags).Reconciled login pipelines flags ∧
      ∀ pipelines' flags', pipelines.Perm pipelines' → flags.Perm flags' →
        ∀ taskId alternateProof,
          (gather login pipelines flags).signal? taskId alternateProof =
            (gather login pipelines' flags').signal? taskId alternateProof :=
  ⟨reconciled_gather login pipelines flags, fun _ _ samePipelines sameFlags =>
    signal?_gather_of_perm samePipelines (sameFlags.filter _)⟩

/-- Of two pipelines in the same place the one that is listed first counts. -/
example :
    (gather "login"
        [⟨9, "project", "sum", .canceled, default⟩, ⟨7, "project", "sum", .pending, default⟩,
          ⟨7, "project", "sum", .running, default⟩] []).pipeline? "sum" =
      some ⟨7, "project", "sum", .pending, default⟩ := by decide

end Evidence
end Gradebook
