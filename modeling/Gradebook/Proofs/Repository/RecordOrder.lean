/-
# The order of records does not matter

Two datasets that list the same records in another order agree on every student
(`Dataset.Shuffled.agreeOn`), so they give the same reports: of pipelines and flags the best count
wherever they stand, and of overrides there is one at most for a task of a student. The standings of
a group are the reports of its students, ranked. They depend on the order of the students only where
two students share a place, with the same mark and the same name
(`report_and_standings_of_shuffled`).
-/

import Gradebook.Proofs.Grading.Ranking
import Gradebook.Proofs.Repository.Separation

namespace Gradebook

/-! ## Datasets in another order -/

/-- **Datasets that list the same records,** each kind in any order. The overrides are in the same
order unless no two of them are for the same task of the same student, for of two that are the last
one counts. -/
structure Dataset.Shuffled (a b : Dataset) : Prop where
  students : a.students.Perm b.students
  pipelines : a.pipelines.Perm b.pipelines
  flags : a.flags.Perm b.flags
  overrides : a.overrides = b.overrides ∨
    a.overrides.Perm b.overrides ∧ (a.overrides.map fun o => (o.login, o.taskId)).Nodup

namespace Dataset.Shuffled

variable {a b : Dataset}

/-- The override that is listed for a task of a student is found in any order. -/
theorem override?_eq (shuffled : a.Shuffled b) (login taskId : String) :
    a.override? login taskId = b.override? login taskId := by
  rcases shuffled.overrides with same | ⟨perm, distinct⟩
  · rw [Dataset.override?, Dataset.override?, same]
  have unique : ∀ o ∈ a.overrides, ∀ p ∈ a.overrides, o.isFor login taskId = true →
      p.isFor login taskId = true → o = p := by
    intro o memO p memP forO forP
    obtain ⟨loginO, taskO⟩ := Override.isFor_iff.1 forO
    obtain ⟨loginP, taskP⟩ := Override.isFor_iff.1 forP
    refine List.inj_on_of_nodup_map distinct memO memP ?_
    rw [loginO, taskO, loginP, taskP]
  refine Option.ext fun o => ?_
  rw [Dataset.override?, Dataset.override?, find?_eq_some_iff_of_unique,
    find?_eq_some_iff_of_unique, List.mem_reverse, List.mem_reverse, perm.mem_iff]
  · intro o memO p memP
    rw [List.mem_reverse, ← perm.mem_iff] at memO memP
    exact unique o memO p memP
  · intro o memO p memP
    rw [List.mem_reverse] at memO memP
    exact unique o memO p memP

theorem agreeOn (shuffled : a.Shuffled b) (s : Student) : a.AgreeOn b s where
  pipelines := shuffled.pipelines.filter _
  flags := shuffled.flags.filter _
  overrides := shuffled.override?_eq s.login

end Dataset.Shuffled

/-! ## Standings -/

/-- The students of a group who are kept. -/
def Dataset.kept (d : Dataset) (group : String) (keeps : Student → Bool) : List Student :=
  d.students.filter fun s => s.group = group && keeps s

theorem Dataset.filter_groupStudents_register (d : Dataset) (group : String)
    (keeps : Student → Bool) :
    (d.register.groupStudents group).filter keeps = d.kept group keeps := by
  rw [Register.groupStudents, List.filter_filter, d.students_register, kept]
  refine List.filter_congr fun s _ => ?_
  rw [Bool.and_comm]

/-- **No two students of a group who are kept share a place:** two with the same mark and the same
name are one student. -/
def Dataset.Untied (d : Dataset) (platform : Platform) (catalog : Catalog) (group : String)
    (keeps : Student → Bool) : Prop :=
  ∀ s ∈ d.kept group keeps, ∀ t ∈ d.kept group keeps,
    s.lastName ++ " " ++ s.firstName = t.lastName ++ " " ++ t.firstName →
      ∀ r q, (Repository.report platform catalog s { register := d.register }).1 = .ok r →
        (Repository.report platform catalog t { register := d.register }).1 = .ok q →
          r.finalMark = q.finalMark → s = t

namespace Dataset.Shuffled

variable {a b : Dataset} {platform : Platform} {catalog : Catalog} {group : String}
  {keeps : Student → Bool}

theorem kept_perm (shuffled : a.Shuffled b) : (a.kept group keeps).Perm (b.kept group keeps) :=
  shuffled.students.filter _

/-- The reports of the students who are kept are ranked alike. -/
theorem rank_eq (shuffled : a.Shuffled b) {course : Course}
    (known : catalog.course group = .ok course) {resolved : List (Course.Scoring × TaskGroup)}
    (resolves : course.resolved = .ok resolved)
    (untied : a.students = b.students ∨ a.Untied platform catalog group keeps) :
    rank ((a.kept group keeps).map fun s =>
        reportOf course platform (a.register.dossier s) resolved) =
      rank ((b.kept group keeps).map fun s =>
        reportOf course platform (b.register.dossier s) resolved) := by
  have alike : (fun s => reportOf course platform (a.register.dossier s) resolved) =
      fun s => reportOf course platform (b.register.dossier s) resolved := by
    funext s
    rw [(shuffled.agreeOn s).alike.reportOf_eq]
  rw [← alike]
  rcases untied with same | untied
  · rw [Dataset.kept, Dataset.kept, same]
  · have reported : ∀ s ∈ a.kept group keeps,
        (Repository.report platform catalog s { register := a.register }).1 =
          .ok (reportOf course platform (a.register.dossier s) resolved) := by
      intro s mem
      have member : s.group = group := by
        have passes := (List.mem_filter.1 mem).2
        rw [Bool.and_eq_true, decide_eq_true_eq] at passes
        exact passes.1
      rw [Repository.fst_report, Register.report_of_known (member ▸ known),
        graded_of_resolved_eq_ok platform resolves]
    refine rank_eq_of_perm (shuffled.kept_perm.map _) ?_
    intro r memR q memQ mark name
    obtain ⟨s, memS, rfl⟩ := List.mem_map.1 memR
    obtain ⟨t, memT, rfl⟩ := List.mem_map.1 memQ
    have one := untied s memS t memT name _ _ (reported s memS) (reported t memT) mark
    rw [one]

/-- **In another order of the records the standings are the same,** or the same error. -/
theorem standings_eq (shuffled : a.Shuffled b)
    (untied : a.students = b.students ∨ a.Untied platform catalog group keeps) :
    a.register.standings platform catalog group keeps =
      b.register.standings platform catalog group keeps := by
  cases known : catalog.course group with
  | error e => rw [Register.standings_of_unknown known, Register.standings_of_unknown known]
  | ok course =>
    rw [Register.standings_of_known known, Register.standings_of_known known,
      filter_groupStudents_register, filter_groupStudents_register]
    cases resolves : course.resolved with
    | ok resolved =>
      rw [a.register.tabulate_of_resolved_eq_ok platform resolves,
        b.register.tabulate_of_resolved_eq_ok platform resolves,
        shuffled.rank_eq known resolves untied]
    | error e =>
      -- Without a student no report is asked for, so there is no error.
      have perm : (a.kept group keeps).Perm (b.kept group keeps) := shuffled.kept_perm
      rcases List.eq_nil_or_concat (a.kept group keeps) with none | ⟨before, last, some⟩
      · have none' : b.kept group keeps = [] := List.nil_perm.1 (none ▸ perm)
        rw [none, none', a.register.tabulate_eq_ok_of_forall₂ platform .nil,
          b.register.tabulate_eq_ok_of_forall₂ platform .nil]
      · have someone : a.kept group keeps ≠ [] := by simp [some]
        have someone' : b.kept group keeps ≠ [] := fun none' =>
          someone (List.perm_nil.1 (none' ▸ perm))
        rw [a.register.tabulate_of_resolved_eq_error resolves group someone,
          b.register.tabulate_of_resolved_eq_error resolves group someone']

end Dataset.Shuffled

/-! ## Records listed from either end

Of two students one has two pipelines of the same number and start, and a flag of the same
identifier and age as one that nobody claimed. -/

namespace Dataset

def forwards : Dataset where
  students := [repeater, ⟨"other", "First", "Other", "2024", false⟩]
  pipelines :=
    [⟨7, "2024-First-Last-login", "sum", .pending, default⟩,
      ⟨7, "2024-First-Last-login", "sum", .running, default⟩]
  flags := [⟨"flag", "sum", default, some "login"⟩, ⟨"flag", "sum", default, none⟩]
  overrides := [⟨"login", "sum", 7, .success⟩, ⟨"other", "sum", 0, .banned⟩]

def backwards : Dataset where
  students := forwards.students.reverse
  pipelines := forwards.pipelines.reverse
  flags := forwards.flags.reverse
  overrides := forwards.overrides.reverse

theorem shuffled_backwards : forwards.Shuffled backwards where
  students := (List.reverse_perm _).symm
  pipelines := (List.reverse_perm _).symm
  flags := (List.reverse_perm _).symm
  overrides := .inr ⟨(List.reverse_perm _).symm, by decide⟩

theorem untied_forwards (catalog : Catalog) :
    forwards.Untied default catalog "2024" fun _ => true := by
  intro s memS t memT name
  have memS := List.mem_of_mem_filter memS
  have memT := List.mem_of_mem_filter memT
  simp only [forwards, repeater, List.mem_cons, List.not_mem_nil, or_false] at memS memT
  rcases memS with rfl | rfl <;> rcases memT with rfl | rfl
  · exact fun _ _ _ _ _ => rfl
  · exact absurd name (by decide)
  · exact absurd name (by decide)
  · exact fun _ _ _ _ _ => rfl

end Dataset

/-! ## The order of records -/

namespace Repository

/-- **The order of records is no part of what anyone gets.** In any two datasets that list the same
records every student has the same report for every catalog, or the same error. So are the
standings of every group the same in every field if the students are listed in the same order, and
if they are not, where no two students who are kept share a place. -/
theorem report_and_standings_of_shuffled (platform : Platform) (catalog : Catalog) {a b : Dataset}
    (shuffled : a.Shuffled b) :
    (∀ s, (report platform catalog s { register := a.register }).1 =
        (report platform catalog s { register := b.register }).1) ∧
      ∀ group keeps, a.students = b.students ∨ a.Untied platform catalog group keeps →
        (standings platform catalog group keeps { register := a.register }).1 =
          (standings platform catalog group keeps { register := b.register }).1 := by
  constructor
  · intro s
    rw [fst_report, fst_report, (shuffled.agreeOn s).report_eq platform catalog]
  · intro group keeps untied
    rw [fst_standings, fst_standings, shuffled.standings_eq untied]

theorem report_and_standings_of_shuffled_backwards :
    Dataset.forwards.Shuffled .backwards ∧
      (Dataset.forwards.students = Dataset.backwards.students ∨
        Dataset.forwards.Untied default .oneTask "2024" fun _ => true) ∧
      (report default .oneTask Dataset.repeater { register := Dataset.forwards.register }).1 =
        (report default .oneTask Dataset.repeater { register := Dataset.backwards.register }).1 ∧
      (standings default .oneTask "2024" (fun _ => true)
          { register := Dataset.forwards.register }).1 =
        (standings default .oneTask "2024" (fun _ => true)
          { register := Dataset.backwards.register }).1 := by
  have untied := Dataset.untied_forwards .oneTask
  obtain ⟨reports, tables⟩ := report_and_standings_of_shuffled default .oneTask
    Dataset.shuffled_backwards
  exact ⟨Dataset.shuffled_backwards, .inr untied, reports Dataset.repeater,
    tables "2024" (fun _ => true) (.inr untied)⟩

end Repository
end Gradebook
