/-
# The best evidence

Gathering evidence goes through the records once and keeps for each task the one that is
preferred so far. What it holds in the end is the first of the most preferred records of the task
(`isFirstBest_of_foldl_eq_some`). Records that are preferred to each other give the same signal, so
signals do not depend on the order of the records (`Evidence.signal?_gather_of_perm`).
-/

import Gradebook.Signal
import Mathlib.Order.Compare

namespace Gradebook

/-! ## Holding the preferred record -/

section

variable {α β : Type} (prefers : α → α → Bool)

/-- Takes a record in place of the one held unless that is preferred. -/
def takeUnless (held? : Option α) (record : α) : Option α :=
  if held?.any (prefers · record) then held? else some record

@[simp] theorem takeUnless_none (record : α) : takeUnless prefers none record = some record := rfl

theorem takeUnless_some (held record : α) :
    takeUnless prefers (some held) record =
      some (if prefers held record then held else record) := by
  by_cases kept : prefers held record = true <;> simp [takeUnless, kept]

/-- **What is held under a name** is what is held of the records of that name alone. -/
theorem find?_foldl_of_takes (key : α → String) (step : NameMap α → α → NameMap α)
    (takes : ∀ m record, step m record =
      if (m.find? (key record)).any (prefers · record) then m else m.insert (key record) record)
    (records : List α) (m : NameMap α) (name : String) :
    (records.foldl step m).find? name =
      (records.filter fun r => key r = name).foldl (takeUnless prefers) (m.find? name) := by
  induction records generalizing m with
  | nil => rfl
  | cons record rest ih =>
    rw [List.foldl_cons, ih, takes]
    by_cases same : key record = name
    · rw [List.filter_cons_of_pos (by simpa using same), List.foldl_cons, same, takeUnless]
      congr 1
      split
      · rfl
      · exact NameMap.find?_insert_self ..
    · rw [List.filter_cons_of_neg (by simpa using same)]
      congr 1
      split
      · rfl
      · rw [NameMap.find?_insert, if_neg (Ne.symm same)]

/-- **The first of the most preferred records:** it is preferred to those after it, and those
before it are not preferred to it. -/
def IsFirstBest (records : List α) (best : α) : Prop :=
  ∃ before after, records = before ++ best :: after ∧
    (∀ r ∈ before, prefers r best = false) ∧ ∀ r ∈ after, prefers best r = true

variable {prefers}

theorem IsFirstBest.mem {records : List α} {best : α} (h : IsFirstBest prefers records best) :
    best ∈ records := by
  obtain ⟨before, after, rfl, -⟩ := h
  exact List.mem_append_right before List.mem_cons_self

theorem foldl_takeUnless_eq_none_iff {records : List α} :
    records.foldl (takeUnless prefers) none = none ↔ records = [] := by
  have stays : ∀ (rest : List α) (held : α),
      rest.foldl (takeUnless prefers) (some held) ≠ none := by
    intro rest
    induction rest with
    | nil => exact fun _ => nofun
    | cons record rest ih =>
      intro held
      rw [List.foldl_cons, takeUnless_some]
      exact ih _
  cases records with
  | nil => simp
  | cons record rest => simpa using stays rest record

variable (total : ∀ a b, prefers a b = false → prefers b a = true)

include total

theorem IsFirstBest.prefers_of_mem {records : List α} {best : α}
    (h : IsFirstBest prefers records best) {r : α} (mem : r ∈ records) :
    prefers best r = true := by
  obtain ⟨before, after, rfl, worse, above⟩ := h
  rcases List.mem_append.1 mem with mem | mem
  · exact total r best (worse r mem)
  · rcases List.mem_cons.1 mem with rfl | mem
    · by_contra self
      exact self (total r r (Bool.not_eq_true _ ▸ self))
    · exact above r mem

variable (trans : ∀ a b c, prefers a b = true → prefers b c = true → prefers a c = true)

include trans

/-- The record held at first stays, or a later one takes its place. -/
theorem eq_or_isFirstBest_of_foldl_eq_some {records : List α} {held best : α}
    (h : records.foldl (takeUnless prefers) (some held) = some best) :
    (best = held ∧ ∀ r ∈ records, prefers held r = true) ∨
      (prefers held best = false ∧ IsFirstBest prefers records best) := by
  induction records generalizing held with
  | nil => exact .inl ⟨(Option.some.inj h).symm, by simp⟩
  | cons record rest ih =>
    rw [List.foldl_cons, takeUnless_some] at h
    by_cases kept : prefers held record = true
    · rw [if_pos kept] at h
      rcases ih h with ⟨rfl, above⟩ | ⟨beaten, before, after, rfl, worse, above⟩
      · exact .inl ⟨rfl, by simpa [kept] using above⟩
      · -- What the record held does not beat, no record beats that it is preferred to.
        have beats : prefers record best = false := by
          rw [← Bool.not_eq_true]
          intro above
          rw [trans held record best kept above] at beaten
          cases beaten
        exact .inr ⟨beaten, record :: before, after, rfl, by simpa [beats] using worse, above⟩
    · rw [if_neg kept] at h
      rw [Bool.not_eq_true] at kept
      rcases ih h with ⟨rfl, above⟩ | ⟨beaten, before, after, rfl, worse, above⟩
      · exact .inr ⟨kept, [], rest, rfl, by simp, above⟩
      · have beats : prefers held best = false := by
          rw [← Bool.not_eq_true]
          intro above
          rw [trans held best record above (total record best beaten)] at kept
          cases kept
        exact .inr ⟨beats, record :: before, after, rfl, by simpa [beaten] using worse, above⟩

/-- **What is held in the end is the first of the most preferred.** -/
theorem isFirstBest_of_foldl_eq_some {records : List α} {best : α}
    (h : records.foldl (takeUnless prefers) none = some best) :
    IsFirstBest prefers records best := by
  cases records with
  | nil => cases h
  | cons record rest =>
    rcases eq_or_isFirstBest_of_foldl_eq_some total trans h with ⟨rfl, above⟩ |
      ⟨beaten, before, after, rfl, worse, above⟩
    · exact ⟨[], rest, rfl, by simp, above⟩
    · exact ⟨record :: before, after, rfl, by simpa [beaten] using worse, above⟩

/-- **The order of records does not matter** for what two records share that are preferred to
each other. -/
theorem map_foldl_takeUnless_of_perm {f : α → β}
    (share : ∀ a b, prefers a b = true → prefers b a = true → f a = f b) {xs ys : List α}
    (perm : xs.Perm ys) :
    (xs.foldl (takeUnless prefers) none).map f = (ys.foldl (takeUnless prefers) none).map f := by
  cases first : xs.foldl (takeUnless prefers) none with
  | none =>
    obtain rfl := foldl_takeUnless_eq_none_iff.1 first
    obtain rfl := List.nil_perm.1 perm
    rfl
  | some a =>
    have bestFirst := isFirstBest_of_foldl_eq_some total trans first
    cases second : ys.foldl (takeUnless prefers) none with
    | none =>
      obtain rfl := foldl_takeUnless_eq_none_iff.1 second
      obtain rfl := List.perm_nil.1 perm
      cases first
    | some b =>
      have bestSecond := isFirstBest_of_foldl_eq_some total trans second
      have ab := bestFirst.prefers_of_mem total (perm.mem_iff.2 bestSecond.mem)
      have ba := bestSecond.prefers_of_mem total (perm.mem_iff.1 bestFirst.mem)
      exact congrArg some (share a b ab ba)

end

/-! ## Orders of evidence -/

namespace Instant

instance : Std.TransCmp compare :=
  inferInstanceAs <| Std.TransCmp <|
    compareLex (compareOn day) (compareLex (compareOn second) (compareOn nano))

theorem eq_of_compare_eq {a b : Instant} (h : a.compare b = .eq) : a = b := by
  obtain ⟨day, rest⟩ := Ordering.then_eq_eq.1 h
  obtain ⟨second, nano⟩ := Ordering.then_eq_eq.1 rest
  cases a
  cases b
  simp only [Std.LawfulEqOrd.compare_eq_iff_eq] at day second nano
  simp only [day, second, nano]

end Instant

instance : Std.TransCmp Pipeline.compareEvidence :=
  inferInstanceAs <| Std.TransCmp <|
    compareLex (compareOn fun p : Pipeline => (TaskStatus.ofVerdict p.verdict).rank) <|
      compareLex (flip (Ordering.byKey Pipeline.startedAt Instant.compare))
        (flip (compareOn Pipeline.id))

instance : Std.TransCmp Flag.compareAge :=
  inferInstanceAs <| Std.TransCmp <|
    compareLex (Ordering.byKey Flag.createdAt Instant.compare) (compareOn Flag.id)

/-- Of two data one is at least as great. -/
theorem isGE_of_isGE_eq_false {α : Type} {cmp : α → α → Ordering} [Std.OrientedCmp cmp] (a b : α)
    (h : (cmp a b).isGE = false) : (cmp b a).isGE = true :=
  Ordering.isGE_of_eq_gt (Std.OrientedCmp.gt_of_lt (Ordering.isGE_eq_false.1 h))

theorem isLE_of_isLE_eq_false {α : Type} {cmp : α → α → Ordering} [Std.OrientedCmp cmp] (a b : α)
    (h : (cmp a b).isLE = false) : (cmp b a).isLE = true :=
  Ordering.isLE_of_eq_lt (Std.OrientedCmp.lt_of_gt (Ordering.isLE_eq_false.1 h))

theorem TaskStatus.rank_injective : Function.Injective rank := by
  intro a b h
  cases a <;> cases b <;> first | rfl | cases h

/-- Pipelines of the same place in the order of evidence give the same signal. -/
theorem Pipeline.signal_eq_of_isGE {p q : Pipeline} (pq : (p.compareEvidence q).isGE = true)
    (qp : (q.compareEvidence p).isGE = true) : p.signal = q.signal := by
  have same : p.compareEvidence q = .eq := Std.OrientedCmp.isGE_antisymm pq qp
  obtain ⟨rank, rest⟩ := Ordering.then_eq_eq.1 same
  obtain ⟨start, id⟩ := Ordering.then_eq_eq.1 rest
  rw [signal, signal, TaskStatus.rank_injective (Std.LawfulEqOrd.eq_of_compare rank),
    Instant.eq_of_compare_eq start, Std.LawfulEqOrd.eq_of_compare id]

/-- Flags of the same age and identifier give the same signal. -/
theorem Flag.signal_eq_of_isLE {f g : Flag} (fg : (f.compareAge g).isLE = true)
    (gf : (g.compareAge f).isLE = true) : f.signal = g.signal := by
  have same : f.compareAge g = .eq := Std.OrientedCmp.isLE_antisymm fg gf
  obtain ⟨created, id⟩ := Ordering.then_eq_eq.1 same
  rw [signal, signal, Instant.eq_of_compare_eq created, Std.LawfulEqOrd.eq_of_compare id]

/-! ## Signals -/

namespace Evidence

variable (login : String) (pipelines : List Pipeline) (flags : List Flag) (taskId : String)

theorem keepBest_eq (best : NameMap Pipeline) (p : Pipeline) :
    keepBest best p =
      if (best.find? p.taskId).any fun held => (held.compareEvidence p).isGE then best
      else best.insert p.taskId p := by
  unfold keepBest
  cases best.find? p.taskId <;> rfl

theorem keepFirst_eq (first : NameMap Flag) (f : Flag) :
    keepFirst first f =
      if (first.find? f.taskId).any fun held => (held.compareAge f).isLE then first
      else first.insert f.taskId f := by
  unfold keepFirst
  cases first.find? f.taskId <;> rfl

/-- The pipeline for a task is what is held of the pipelines for it, the best one. -/
theorem pipeline?_gather :
    (gather login pipelines flags).pipeline? taskId =
      (pipelines.filter fun p => p.taskId = taskId).foldl
        (takeUnless fun held p => (held.compareEvidence p).isGE) none :=
  find?_foldl_of_takes _ _ _ keepBest_eq ..

/-- The flag for a task is what is held of the flags for it that the student claimed, the first
one. -/
theorem flag?_gather :
    (gather login pipelines flags).flag? taskId =
      ((flags.filter fun f => f.claimedBy = some login).filter fun f => f.taskId = taskId).foldl
        (takeUnless fun held f => (held.compareAge f).isLE) none :=
  find?_foldl_of_takes _ _ _ keepFirst_eq ..

variable {login pipelines flags}

section

variable {pipelines' : List Pipeline} {flags' : List Flag} {taskId : String}

/-- **The signal for a task depends on the records of the task alone,** not on their order and not
on flags of others. -/
theorem signal?_gather_of_perm_filter
    (samePipelines : (pipelines.filter fun p => p.taskId = taskId).Perm
      (pipelines'.filter fun p => p.taskId = taskId))
    (sameFlags :
      ((flags.filter fun f => f.claimedBy = some login).filter fun f => f.taskId = taskId).Perm
        ((flags'.filter fun f => f.claimedBy = some login).filter fun f => f.taskId = taskId))
    (alternateProof : Bool) :
    (gather login pipelines flags).signal? taskId alternateProof =
      (gather login pipelines' flags').signal? taskId alternateProof := by
  have pipeline : ((gather login pipelines flags).pipeline? taskId).map Pipeline.signal =
      ((gather login pipelines' flags').pipeline? taskId).map Pipeline.signal := by
    rw [pipeline?_gather, pipeline?_gather]
    exact map_foldl_takeUnless_of_perm (@isGE_of_isGE_eq_false _ Pipeline.compareEvidence _)
      (fun _ _ _ => Std.TransCmp.isGE_trans) (fun _ _ => Pipeline.signal_eq_of_isGE) samePipelines
  have flag : ((gather login pipelines flags).flag? taskId).map Flag.signal =
      ((gather login pipelines' flags').flag? taskId).map Flag.signal := by
    rw [flag?_gather, flag?_gather]
    exact map_foldl_takeUnless_of_perm (@isLE_of_isLE_eq_false _ Flag.compareAge _)
      (fun _ _ _ => Std.TransCmp.isLE_trans) (fun _ _ => Flag.signal_eq_of_isLE) sameFlags
  rw [signal?, signal?, pipeline, flag]

/-- **Signals do not depend on the order of the records,** nor on flags of others. -/
theorem signal?_gather_of_perm (samePipelines : pipelines.Perm pipelines')
    (sameFlags : (flags.filter fun f => f.claimedBy = some login).Perm
      (flags'.filter fun f => f.claimedBy = some login))
    (taskId : String) (alternateProof : Bool) :
    (gather login pipelines flags).signal? taskId alternateProof =
      (gather login pipelines' flags').signal? taskId alternateProof :=
  signal?_gather_of_perm_filter (samePipelines.filter _) (sameFlags.filter _) alternateProof

end

end Evidence

end Gradebook
