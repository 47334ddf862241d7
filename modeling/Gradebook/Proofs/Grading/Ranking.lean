/-
# Ranking

Reports are compared by their marks and then by the names of their students. Marks are compared by
their bits, so every mark has its place, one that is not a number too, and the comparison is a
total preorder. A ranked list ascends in it (`pairwise_rank`). Two reports share a place exactly
when mark and name are the same (`Report.compareStanding_eq_eq_iff`), so where no two different
reports share one, the ranking does not depend on the order in which the reports came
(`rank_eq_of_perm`).
-/

import Gradebook.Cohort
import Mathlib.Data.List.Sort
import Mathlib.Order.Compare
import Mathlib.Tactic.Common

namespace Gradebook

/-! ## Sorting and filtering -/

section

variable {α : Type} {le : α → α → Bool}
  (trans : ∀ a b c, le a b = true → le b c = true → le a c = true)
  (total : ∀ a b, (le a b || le b a) = true)

include trans total

/-- An item is sorted in between what it is not below and what it is. -/
theorem mergeSort_cons_eq (x : α) (xs : List α) :
    (x :: xs).mergeSort le =
      ((xs.mergeSort le).filter fun y => !le x y) ++ x :: (xs.mergeSort le).filter (le x) := by
  obtain ⟨before, after, sorted, tail, above⟩ := List.mergeSort_cons trans total x xs
  have below : ∀ y ∈ after, le x y = true := by
    have ascends := List.pairwise_mergeSort trans total (x :: xs)
    rw [sorted] at ascends
    exact (List.pairwise_cons.1 (List.pairwise_append.1 ascends).2.1).1
  rw [sorted, tail, List.filter_append, List.filter_append, List.filter_eq_self.2 above,
    List.filter_eq_self.2 below, List.filter_eq_nil_iff.2, List.filter_eq_nil_iff.2,
    List.append_nil, List.nil_append]
  · exact fun y mem => by simpa using above y mem
  · exact fun y mem => by simpa using below y mem

/-- **What a sorted list leaves after filtering** is the sorted list of what is left. -/
theorem filter_mergeSort (p : α → Bool) (xs : List α) :
    (xs.mergeSort le).filter p = (xs.filter p).mergeSort le := by
  induction xs with
  | nil => rw [List.filter_nil, List.mergeSort_nil, List.filter_nil]
  | cons x xs ih =>
    by_cases kept : p x = true
    · rw [List.filter_cons_of_pos kept, mergeSort_cons_eq trans total,
        mergeSort_cons_eq trans total, ← ih, List.filter_append, List.filter_cons_of_pos kept,
        List.filter_comm p, List.filter_comm p]
    · obtain ⟨before, after, sorted, tail, -⟩ := List.mergeSort_cons trans total x xs
      rw [List.filter_cons_of_neg kept, ← ih, sorted, tail, List.filter_append,
        List.filter_cons_of_neg kept, List.filter_append]

/-- **Sorting keeps the order of items in one place.** -/
theorem filter_mergeSort_of_ties {p : α → Bool}
    (ties : ∀ a b, p a = true → p b = true → le a b = true) (xs : List α) :
    (xs.mergeSort le).filter p = xs.filter p := by
  rw [filter_mergeSort trans total]
  refine List.mergeSort_of_pairwise (List.pairwise_of_forall_mem_list fun a memA b memB => ?_)
  exact ties a b (List.mem_filter.1 memA).2 (List.mem_filter.1 memB).2

end

/-- What holds within each class of a list holds of any two of its items in one class. -/
theorem pairwise_of_pairwise_filter {α β : Type} [DecidableEq β] {key : α → β} {R : α → α → Prop}
    {xs : List α} (within : ∀ k, (xs.filter fun x => key x = k).Pairwise R) :
    xs.Pairwise fun a b => key a = key b → R a b := by
  induction xs with
  | nil => exact .nil
  | cons x xs ih =>
    refine .cons (fun y mem same => ?_) (ih fun k => ?_)
    · have own := within (key x)
      rw [List.filter_cons_of_pos (by simp)] at own
      exact (List.pairwise_cons.1 own).1 y (List.mem_filter.2 ⟨mem, by simp [same]⟩)
    · exact (within k).sublist ((List.sublist_cons_self x xs).filter _)

/-! ## The order of reports -/

instance : Std.TransCmp Binary64.totalCompare :=
  inferInstanceAs (Std.TransCmp (compareOn Binary64.totalKey))

theorem Binary64.totalCompare_eq_eq_iff {x y : Binary64} : x.totalCompare y = .eq ↔ x = y := by
  rw [totalCompare, Std.compare_eq_iff_eq]
  exact ⟨totalKey_injective, fun same => same ▸ rfl⟩

namespace Report

instance : Std.TransCmp compareStanding :=
  inferInstanceAs <| Std.TransCmp <|
    compareLex (flip (Ordering.byKey finalMark Binary64.totalCompare))
      (compareOn fun r : Report => r.student.sortName)

/-- **Two reports share a place** if they have the same mark, bit by bit, and the same name. -/
theorem compareStanding_eq_eq_iff {a b : Report} :
    a.compareStanding b = .eq ↔
      a.finalMark = b.finalMark ∧ a.student.sortName = b.student.sortName := by
  constructor
  · intro same
    obtain ⟨marks, names⟩ := Ordering.then_eq_eq.1 same
    exact ⟨(Binary64.totalCompare_eq_eq_iff.1 marks).symm, Std.LawfulEqOrd.eq_of_compare names⟩
  · rintro ⟨mark, name⟩
    rw [compareStanding, mark, name]
    exact Ordering.then_eq_eq.2 ⟨Std.ReflCmp.compare_self, Std.ReflCmp.compare_self⟩

theorem compareStanding_isLE_total (a b : Report) :
    ((a.compareStanding b).isLE || (b.compareStanding a).isLE) = true := by
  cases order : a.compareStanding b with
  | lt => rfl
  | eq => rfl
  | gt =>
    have : b.compareStanding a = .lt := Std.OrientedCmp.lt_of_gt order
    rw [this]
    rfl

end Report

/-! ## Ranked lists -/

/-- **A ranked list ascends.** -/
theorem pairwise_rank (reports : List Report) :
    (rank reports).Pairwise fun a b => (a.compareStanding b).isLE = true :=
  List.pairwise_mergeSort (fun _ _ _ => Std.TransCmp.isLE_trans)
    Report.compareStanding_isLE_total reports

/-- **A ranking of some reports** is what the ranking of all leaves of them, reports that share a
place included. -/
theorem filter_rank (p : Report → Bool) (reports : List Report) :
    (rank reports).filter p = rank (reports.filter p) :=
  filter_mergeSort (fun _ _ _ => Std.TransCmp.isLE_trans) Report.compareStanding_isLE_total p
    reports

theorem rank_perm (reports : List Report) : (rank reports).Perm reports :=
  List.mergeSort_perm _ _

/-- **The order in which reports come does not matter** where reports that share a place are the
same. -/
theorem rank_eq_of_perm {xs ys : List Report} (perm : xs.Perm ys)
    (apart : ∀ a ∈ xs, ∀ b ∈ xs, a.finalMark = b.finalMark →
      a.student.sortName = b.student.sortName → a = b) :
    rank xs = rank ys := by
  have ranked : (rank xs).Perm (rank ys) := (rank_perm xs).trans (perm.trans (rank_perm ys).symm)
  refine ranked.eq_of_pairwise (fun a b memA memB ab ba => ?_) (pairwise_rank xs) (pairwise_rank ys)
  have memA : a ∈ xs := (rank_perm xs).mem_iff.1 memA
  have memB : b ∈ xs := perm.mem_iff.2 ((rank_perm ys).mem_iff.1 memB)
  obtain ⟨mark, name⟩ := Report.compareStanding_eq_eq_iff.1 (Std.OrientedCmp.isLE_antisymm ab ba)
  exact apart a memA b memB mark name

end Gradebook
