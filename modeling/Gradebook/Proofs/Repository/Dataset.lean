/-
# Datasets

A dataset lists records of all kinds. Of several overrides for a task of a student the one listed
last is in force, and this is the one that the register made from the dataset has
(`Dataset.override?_register`). A register never has two overrides for one task of a student
(`Register.Keyed`), so what grading finds in the dossier of a student is the override in force
(`Register.Keyed.find?_overrides_dossier`).
-/

import Gradebook.Proofs.Repository.Answers
import Mathlib.Tactic.Common

namespace Gradebook

/-- Records of all kinds as they are listed. -/
structure Dataset where
  students : List Student := []
  pipelines : List Pipeline := []
  flags : List Flag := []
  overrides : List Override := []

theorem Override.isFor_iff {o : Override} {login taskId : String} :
    o.isFor login taskId = true ↔ o.login = login ∧ o.taskId = taskId := by
  simp [isFor]

/-! ## One override for each task of a student -/

namespace Register

/-- **No two overrides are for the same task of the same student.** -/
def Keyed (r : Register) : Prop :=
  ∀ a ∈ r.overrides, ∀ b ∈ r.overrides, a.isFor b.login b.taskId = true → a = b

variable {r : Register}

theorem mem_overrides_setOverride {o other : Override}
    (mem : other ∈ (r.setOverride o).overrides) :
    other = o ∨ other ∈ r.overrides ∧ other.isFor o.login o.taskId = false := by
  rcases List.mem_append.1 mem with kept | new
  · obtain ⟨old, differs⟩ := List.mem_filter.1 kept
    exact .inr ⟨old, by simpa using differs⟩
  · exact .inl (List.mem_singleton.1 new)

theorem Keyed.setOverride (keyed : r.Keyed) (o : Override) : (r.setOverride o).Keyed := by
  intro a memA b memB same
  rcases mem_overrides_setOverride memA with rfl | ⟨oldA, differsA⟩ <;>
    rcases mem_overrides_setOverride memB with rfl | ⟨oldB, differsB⟩
  · rfl
  · obtain ⟨login, taskId⟩ := Override.isFor_iff.1 same
    rw [login, taskId, Override.isFor_iff.2 ⟨rfl, rfl⟩] at differsB
    cases differsB
  · rw [same] at differsA
    cases differsA
  · exact keyed a oldA b oldB same

theorem Keyed.removeOverride (keyed : r.Keyed) (login taskId : String) :
    (r.removeOverride login taskId).Keyed :=
  fun a memA b memB => keyed a (List.mem_filter.1 memA).1 b (List.mem_filter.1 memB).1

theorem keyed_foldl_setOverride (keyed : r.Keyed) (overrides : List Override) :
    (overrides.foldl Register.setOverride r).Keyed := by
  induction overrides generalizing r with
  | nil => exact keyed
  | cons o rest ih => exact ih (keyed.setOverride o)

/-- Setting overrides changes nothing but the overrides. -/
theorem foldl_setOverride_eq (overrides : List Override) (r : Register) :
    ∃ left, overrides.foldl Register.setOverride r = { r with overrides := left } := by
  induction overrides generalizing r with
  | nil => exact ⟨r.overrides, rfl⟩
  | cons o rest ih =>
    obtain ⟨left, made⟩ := ih (r.setOverride o)
    exact ⟨left, made⟩

/-- Of overrides that are set one after the other the last counts. -/
theorem override?_foldl_setOverride (overrides : List Override) (r : Register)
    (login taskId : String) :
    (overrides.foldl Register.setOverride r).override? login taskId =
      (overrides.reverse.find? fun o => o.isFor login taskId).or (r.override? login taskId) := by
  induction overrides generalizing r with
  | nil => rfl
  | cons o rest ih =>
    rw [List.foldl_cons, ih, override?_setOverride, List.reverse_cons, List.find?_append,
      Option.or_assoc]
    congr 1
    by_cases same : login = o.login ∧ taskId = o.taskId
    · obtain ⟨rfl, rfl⟩ := same
      simp [Override.isFor]
    · have differs : o.isFor login taskId = false := by
        rw [← Bool.not_eq_true, Override.isFor_iff]
        rintro ⟨rfl, rfl⟩
        exact same ⟨rfl, rfl⟩
      simp [same, differs]

end Register

/-! ## Registers of datasets -/

namespace Dataset

variable (d : Dataset)

/-- The register that a dataset makes. -/
def register : Register := .ofRecords d.students d.pipelines d.flags d.overrides

/-- The override that is listed last for a task of a student. -/
def override? (login taskId : String) : Option Override :=
  d.overrides.reverse.find? fun o => o.isFor login taskId

theorem register_eq :
    ∃ overrides, d.register =
      { students := d.students, pipelines := d.pipelines, flags := d.flags,
        overrides := overrides } :=
  Register.foldl_setOverride_eq ..

@[simp] theorem students_register : d.register.students = d.students := by
  obtain ⟨overrides, made⟩ := d.register_eq
  rw [made]

@[simp] theorem pipelines_register : d.register.pipelines = d.pipelines := by
  obtain ⟨overrides, made⟩ := d.register_eq
  rw [made]

@[simp] theorem flags_register : d.register.flags = d.flags := by
  obtain ⟨overrides, made⟩ := d.register_eq
  rw [made]

theorem keyed_register : d.register.Keyed :=
  Register.keyed_foldl_setOverride (fun _ mem => absurd mem List.not_mem_nil) d.overrides

/-- **The register has the overrides that are listed last.** -/
theorem override?_register (login taskId : String) :
    d.register.override? login taskId = d.override? login taskId := by
  rw [register, Register.ofRecords, Register.override?_foldl_setOverride]
  exact Option.or_none

end Dataset

/-! ## Overrides in a dossier -/

/-- If at most one item passes a test it is found wherever it stands. -/
theorem find?_eq_some_iff_of_unique {α : Type} {p : α → Bool} {xs : List α}
    (unique : ∀ a ∈ xs, ∀ b ∈ xs, p a = true → p b = true → a = b) {a : α} :
    xs.find? p = some a ↔ a ∈ xs ∧ p a = true := by
  constructor
  · exact fun found => ⟨List.mem_of_find?_eq_some found, List.find?_some found⟩
  · rintro ⟨mem, passes⟩
    cases found : xs.find? p with
    | none => exact absurd passes (List.find?_eq_none.1 found a mem)
    | some b =>
      rw [unique a mem b (List.mem_of_find?_eq_some found) passes (List.find?_some found)]

theorem find?_overridesByTask (records : List Override) (taskId : String) :
    (overridesByTask records).find? taskId = records.reverse.find? fun o => o.taskId = taskId := by
  rw [overridesByTask, NameMap.find?_ofList, ← List.map_reverse]
  induction records.reverse with
  | nil => rfl
  | cons o rest ih =>
    rw [List.map_cons, NameMap.lookup_cons_eq_ite, ih, List.find?_cons]
    by_cases same : o.taskId = taskId
    · simp [same]
    · simp [same, Ne.symm same]

/-- **The dossier of a student has the overrides of the register.** -/
theorem Register.Keyed.find?_overrides_dossier {r : Register} (keyed : r.Keyed) (s : Student)
    (taskId : String) :
    (r.dossier s).overrides.find? taskId = r.override? s.login taskId := by
  refine Option.ext fun o => ?_
  rw [Register.dossier, find?_overridesByTask, Register.studentOverrides, Register.override?,
    find?_eq_some_iff_of_unique, find?_eq_some_iff_of_unique]
  · simp [Override.isFor, and_assoc]
  · intro a memA b memB forA forB
    obtain ⟨loginB, taskB⟩ := Override.isFor_iff.1 forB
    rw [← loginB, ← taskB] at forA
    exact keyed a memA b memB forA
  · intro a memA b memB taskA taskB
    simp only [List.filter_filter, List.mem_reverse, List.mem_filter, Bool.and_eq_true,
      decide_eq_true_eq] at memA memB taskA taskB
    refine keyed a memA.1 b memB.1 (Override.isFor_iff.2 ⟨?_, ?_⟩)
    · rw [memA.2.1, memB.2.1]
    · rw [taskA, taskB]

end Gradebook
