/-
# Ranking sorts stably

A report stands no lower than another if its mark comes no earlier in the total order of data and,
where the two marks are the same, its name comes no later (`Report.compareStanding_isLE_iff`). For
every list of reports the ranking is the stable sort by this total preorder (`rank_stable`). That
reports in one place stay in the order in which they came is said by filtering: what a ranking has
of one mark and one name is what the list had of them, in the same order.
-/

import Gradebook.Proofs.Binary64.TotalOrder
import Gradebook.Proofs.Grading.Ranking
import Mathlib.Data.String.Basic

namespace Gradebook

theorem isLE_compare_string {a b : String} : (compare a b).isLE = true ↔ a ≤ b :=
  Ordering.isLE_iff_ne_gt.trans compare_le_iff_le

namespace Report

/-- Whether a report has a mark and a name. -/
def isAt (mark : Binary64) (name : String) (r : Report) : Bool :=
  r.finalMark = mark && r.student.sortName = name

/-- **The order of standings:** the greater mark first, and of one mark the lesser name. -/
theorem compareStanding_isLE_iff {a b : Report} : (a.compareStanding b).isLE = true ↔
    b.finalMark.TotalLE a.finalMark ∧
      (a.finalMark = b.finalMark → a.student.sortName ≤ b.student.sortName) := by
  rw [compareStanding, Ordering.isLE_then_iff_and, isLE_compare_string,
    ← Binary64.totalCompare_isLE_iff, @eq_comm _ a.finalMark, ← Binary64.totalCompare_eq_eq_iff]
  cases b.finalMark.totalCompare a.finalMark <;> simp

theorem compareStanding_of_isAt {mark : Binary64} {name : String} {a b : Report}
    (atA : a.isAt mark name = true) (atB : b.isAt mark name = true) :
    (a.compareStanding b).isLE = true := by
  simp only [isAt, Bool.and_eq_true, decide_eq_true_eq] at atA atB
  rw [compareStanding_eq_eq_iff.2 ⟨atA.1.trans atB.1.symm, atA.2.trans atB.2.symm⟩]
  rfl

end Report

/-- **Ranking sorts stably by a total preorder.** The comparison of reports is reflexive, total and
transitive, whatever the marks are, and its results for two reports in either order agree. A ranked
list has the reports of the list, its marks never rise in the total order of data, names ascend
where the mark is the same, and reports with the same mark and name keep their order. -/
theorem rank_stable :
    (∀ a : Report, a.compareStanding a = .eq) ∧
    (∀ a b : Report, b.compareStanding a = (a.compareStanding b).swap) ∧
    (∀ a b : Report, (a.compareStanding b).isLE = true ∨ (b.compareStanding a).isLE = true) ∧
    (∀ a b c : Report, (a.compareStanding b).isLE = true → (b.compareStanding c).isLE = true →
      (a.compareStanding c).isLE = true) ∧
    ∀ reports : List Report, (rank reports).Perm reports ∧
      (rank reports).Pairwise (fun a b => b.finalMark.TotalLE a.finalMark) ∧
      (rank reports).Pairwise (fun a b => a.finalMark = b.finalMark →
        a.student.sortName ≤ b.student.sortName) ∧
      ∀ mark name, (rank reports).filter (Report.isAt mark name) =
        reports.filter (Report.isAt mark name) := by
  refine ⟨fun _ => Std.ReflCmp.compare_self, fun _ _ => Std.OrientedCmp.eq_swap, fun a b => ?_,
    fun _ _ _ => Std.TransCmp.isLE_trans, fun reports => ⟨rank_perm reports, ?_, ?_, ?_⟩⟩
  · exact Bool.or_eq_true_iff.1 (Report.compareStanding_isLE_total a b)
  · exact (pairwise_rank reports).imp fun le => (Report.compareStanding_isLE_iff.1 le).1
  · exact (pairwise_rank reports).imp fun le => (Report.compareStanding_isLE_iff.1 le).2
  · exact fun mark name => filter_mergeSort_of_ties (fun _ _ _ => Std.TransCmp.isLE_trans)
      Report.compareStanding_isLE_total (fun _ _ => Report.compareStanding_of_isAt) reports

end Gradebook
