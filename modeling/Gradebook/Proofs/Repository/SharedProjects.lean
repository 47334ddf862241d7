/-
# Who shares a project

The project of a student is named after the group, the names and the login. Behind the group the
first dash ends the first name and the next one the last name, since a cleaned name has no dash, and
the rest is the cleaned login, whatever dashes are in it. So students of one group have one project
exactly if nothing but what is cleaned away tells them apart (`Student.Namesakes`). What is cleaned
away of a login is said by its runs of underscores, of which one underscore is left or none
(`Platform.cleanLogin_eq`). Pipelines are sorted by project, so no pipeline counts for two students
of a group that are not namesakes (`Student.projectName_eq_iff_namesakes`).
-/

import Gradebook.Proofs.Grading.BestEvidence
import Gradebook.Proofs.Repository.Batch
import Gradebook.Proofs.Text.Splitting
import Mathlib.Data.List.SplitBy

namespace Gradebook

/-! ## Runs of underscores -/

namespace Platform

/-- What is left of a run of equal characters: of underscores one if their number is odd and none
if it is even. -/
def reduceRun (run : List Char) : List Char :=
  if run.head? = some '_' then List.replicate (run.length % 2) '_' else run

/-- **A text with each of its runs of underscores reduced.** -/
def reduceRuns (s : List Char) : List Char := (s.splitBy (· == ·)).flatMap reduceRun

/-- An underscore that no other follows stays, and so does any other character. -/
theorem cleanLogin_cons {c : Char} {s : List Char} (single : c = '_' → '_' ∉ s.head?) :
    cleanLogin (c :: s) = c :: cleanLogin s := by
  rw [cleanLogin]
  rintro rest same rfl
  exact single same rfl

theorem cleanLogin_replicate {rest : List Char} (ends : '_' ∉ rest.head?) (n : Nat) :
    cleanLogin (List.replicate n '_' ++ rest) =
      List.replicate (n % 2) '_' ++ cleanLogin rest := by
  induction n using Nat.twoStepInduction with
  | zero => rfl
  | one => exact cleanLogin_cons fun _ => ends
  | more n ih _ =>
    rw [Nat.add_mod_right, ← ih]
    rfl

theorem cleanLogin_append {run : List Char} (none : '_' ∉ run) (rest : List Char) :
    cleanLogin (run ++ rest) = run ++ cleanLogin rest := by
  induction run with
  | nil => rfl
  | cons c run ih =>
    obtain ⟨other, none⟩ := not_or.1 (List.mem_cons.not.1 none)
    rw [List.cons_append, cleanLogin_cons fun same => absurd same.symm other, ih none,
      List.cons_append]

theorem eq_of_mem_run {c d : Char} {run : List Char} (equal : (c :: run).IsChain (· = ·))
    (mem : d ∈ c :: run) : d = c := by
  rcases List.mem_cons.1 mem with same | mem
  · exact same
  · rw [List.isChain_cons_eq_iff_eq_replicate.1 equal] at mem
    exact List.eq_of_mem_replicate mem

/-- A run of equal characters is cleaned by itself, if what follows starts with another one. -/
theorem cleanLogin_run {c : Char} {run rest : List Char} (equal : (c :: run).IsChain (· = ·))
    (ends : c ∉ rest.head?) :
    cleanLogin (c :: run ++ rest) = reduceRun (c :: run) ++ cleanLogin rest := by
  by_cases underscore : c = '_'
  · subst underscore
    have whole : '_' :: run = List.replicate ('_' :: run).length '_' :=
      congrArg ('_' :: ·) (List.isChain_cons_eq_iff_eq_replicate.1 equal)
    rw [reduceRun, List.head?_cons, if_pos rfl, ← cleanLogin_replicate ends, ← whole]
  · rw [reduceRun, if_neg (by simpa using underscore)]
    exact cleanLogin_append (fun mem => underscore (eq_of_mem_run equal mem).symm) rest

theorem cleanLogin_flatten {runs : List (List Char)} (nonempty : [] ∉ runs)
    (equal : ∀ run ∈ runs, run.IsChain (· = ·))
    (apart : runs.IsChain fun a b => ∃ ha hb, (a.getLast ha == b.head hb) = false) :
    cleanLogin runs.flatten = runs.flatMap reduceRun := by
  induction runs with
  | nil => rfl
  | cons run runs ih =>
    obtain ⟨border, borders⟩ := List.isChain_cons.1 apart
    obtain ⟨own, others⟩ := List.forall_mem_cons.1 equal
    obtain ⟨someRun, someOthers⟩ := not_or.1 (List.mem_cons.not.1 nonempty)
    obtain ⟨c, run, rfl⟩ := List.exists_cons_of_ne_nil (Ne.symm someRun)
    have ends : c ∉ runs.flatten.head? := by
      cases runs with
      | nil => simp
      | cons next runs =>
        obtain ⟨_, someNext, differ⟩ := border next rfl
        obtain ⟨d, next, rfl⟩ := List.exists_cons_of_ne_nil someNext
        rw [eq_of_mem_run own (List.getLast_mem _), List.head_cons] at differ
        rintro ⟨⟩
        rw [beq_self_eq_true] at differ
        cases differ
    rw [List.flatten_cons, List.flatMap_cons, cleanLogin_run own ends, ih someOthers others borders]

/-- **A cleaned login** is the login with its runs of underscores reduced. -/
theorem cleanLogin_eq (login : List Char) : cleanLogin login = reduceRuns login := by
  have cleaned := cleanLogin_flatten (List.nil_notMem_splitBy (· == ·) login)
    (fun run mem => (List.isChain_of_mem_splitBy mem).imp fun _ _ same => eq_of_beq same)
    (List.isChain_getLast_head_splitBy (· == ·) login)
  rwa [List.flatten_splitBy] at cleaned

/-! ## Names of projects -/

/-- A text without its dashes and apostrophes. -/
def deleteMarks (s : List Char) : List Char := s.filter (· ∉ ['-', '\''])

theorem cleanName_eq (name : List Char) : cleanName name = deleteMarks name :=
  List.filter_congr fun c _ => by simp

theorem dash_notMem_cleanName (name : List Char) : '-' ∉ cleanName name := by
  simp [cleanName]

theorem toList_projectName (s : Student) :
    (projectName s).toList = s.group.toList ++ '-' :: (cleanName s.firstName.toList ++
      '-' :: (cleanName s.lastName.toList ++ '-' :: cleanLogin s.login.toList)) := by
  simp [projectName]

end Platform

open Platform (deleteMarks reduceRuns projectName)

/-- **Students who are told apart** by dashes and apostrophes in their names and by pairs of
underscores in their logins at most. -/
structure Student.Namesakes (a b : Student) : Prop where
  firstName : deleteMarks a.firstName.toList = deleteMarks b.firstName.toList
  lastName : deleteMarks a.lastName.toList = deleteMarks b.lastName.toList
  login : reduceRuns a.login.toList = reduceRuns b.login.toList

/-- **Students of one group have one project** exactly if they are namesakes. -/
theorem Platform.projectName_eq_iff {a b : Student} (same : a.group = b.group) :
    projectName a = projectName b ↔ a.Namesakes b := by
  rw [← String.toList_inj, toList_projectName, toList_projectName, same,
    List.append_cancel_left_eq]
  constructor
  · intro names
    obtain ⟨firstName, rest⟩ := Text.eq_of_first (List.cons.inj names).2 (dash_notMem_cleanName _)
      (dash_notMem_cleanName _)
    obtain ⟨lastName, login⟩ := Text.eq_of_first rest (dash_notMem_cleanName _)
      (dash_notMem_cleanName _)
    rw [cleanName_eq, cleanName_eq] at firstName lastName
    rw [cleanLogin_eq, cleanLogin_eq] at login
    exact ⟨firstName, lastName, login⟩
  · rintro ⟨firstName, lastName, login⟩
    simp only [cleanName_eq, cleanLogin_eq, firstName, lastName, login]

/-! ## Pipelines -/

namespace Register

/-- **A pipeline counts for a student** if it is among those that the evidence is gathered from, for
the student alone or in a cohort. -/
inductive Counts (register : Register) (s : Student) (p : Pipeline) : Prop
  | alone : p ∈ register.projectPipelines (projectName s) → Counts register s p
  | inCohort : p ∈ ((Cohort.ofRecords register.pipelines register.claimedFlags
      register.overrides).pipelines.find? (projectName s)).getD [] → Counts register s p

variable {register : Register} {s : Student} {p : Pipeline}

theorem counts_iff :
    register.Counts s p ↔ p ∈ register.pipelines ∧ p.project = projectName s := by
  have filed : p ∈ register.projectPipelines (projectName s) ↔
      p ∈ register.pipelines ∧ p.project = projectName s := by
    rw [projectPipelines, List.mem_filter, decide_eq_true_iff]
  constructor
  · rintro (mem | mem)
    · exact filed.1 mem
    · rw [Cohort.getD_find?_pipelines] at mem
      exact filed.1 mem
  · exact fun counts => .alone (filed.2 counts)

/-- What is the evidence for a task counts. -/
theorem counts_of_pipeline? {taskId : String}
    (best : (register.dossier s).evidence.pipeline? taskId = some p) : register.Counts s p :=
  .alone (Evidence.pipeline?_gather_eq_some_iff.1 best).mem

end Register

/-- **Who shares a project shares its pipelines, and nobody else does.** Two students of one group
have the same project, on whichever platform it is, if and only if they are namesakes. If they are,
the same pipelines count for both, and if not, none counts for both, so none is the evidence of
both. -/
theorem Student.projectName_eq_iff_namesakes {a b : Student} (same : a.group = b.group) :
    (projectName a = projectName b ↔ a.Namesakes b) ∧
      (a.Namesakes b → ∀ (register : Register) (p : Pipeline),
        register.Counts a p ↔ register.Counts b p) ∧
      (¬ a.Namesakes b → ∀ (register : Register) (p : Pipeline),
        ¬ (register.Counts a p ∧ register.Counts b p) ∧
          ∀ taskId, ¬ ((register.dossier a).evidence.pipeline? taskId = some p ∧
            (register.dossier b).evidence.pipeline? taskId = some p)) := by
  have names := Platform.projectName_eq_iff same
  refine ⟨names, fun namesakes register p => ?_, fun apart register p => ?_⟩
  · rw [Register.counts_iff, Register.counts_iff, names.2 namesakes]
  · have none : ¬ (register.Counts a p ∧ register.Counts b p) := by
      rintro ⟨countsA, countsB⟩
      exact apart (names.1 ((Register.counts_iff.1 countsA).2.symm.trans
        (Register.counts_iff.1 countsB).2))
    exact ⟨none, fun taskId best =>
      none ⟨Register.counts_of_pipeline? best.1, Register.counts_of_pipeline? best.2⟩⟩

/-! ## Two namesakes

The group has a dash, one login a run of two underscores and the other one of three. -/

def Student.dashed : Student := ⟨"o__brien_", "Anna-Maria", "O'Brien", "2024-1", false⟩

def Student.plain : Student := ⟨"obrien___", "AnnaMaria", "OBrien", "2024-1", true⟩

theorem Student.projectName_eq_iff_namesakes_dashed :
    dashed.group = plain.group ∧ projectName dashed = "2024-1-AnnaMaria-OBrien-obrien_" ∧
      (projectName dashed = projectName plain ↔ dashed.Namesakes plain) ∧
      (dashed.Namesakes plain → ∀ (register : Register) (p : Pipeline),
        register.Counts dashed p ↔ register.Counts plain p) ∧
      (¬ dashed.Namesakes plain → ∀ (register : Register) (p : Pipeline),
        ¬ (register.Counts dashed p ∧ register.Counts plain p) ∧
          ∀ taskId, ¬ ((register.dossier dashed).evidence.pipeline? taskId = some p ∧
            (register.dossier plain).evidence.pipeline? taskId = some p)) :=
  ⟨rfl, by decide, Student.projectName_eq_iff_namesakes rfl⟩

end Gradebook
