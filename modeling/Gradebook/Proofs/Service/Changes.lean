/-
# What counts as a change

Whoever publishes a catalog is told whether its content is new. The content is what the courses say
(`Course.plain`), so the answer is no exactly if every group has courses that say the same in the
two catalogs, or in neither a course (`Publication.changedBy_eq_false_iff`), as far as fractions are
numbers. A refresh that finds the files as they were is therefore told that nothing changed
(`Service.tells_changes`).
-/

import Gradebook.Proofs.Course.Content
import Gradebook.Proofs.Repository.Batch
import Gradebook.Proofs.Service.Refreshing

namespace Gradebook

/-! ## Catalogs of courses that were built -/

theorem Course.exists_build_eq_ok_of_read {layout : Layout} {text : String} {c : Course}
    (made : read layout text = .ok c) : ∃ parts, build parts = .ok c := by
  unfold read at made
  split at made
  · cases made
  · next value _ =>
    cases given : partsOf layout value with
    | error e =>
      rw [given] at made
      cases made
    | ok parts =>
      rw [given] at made
      exact ⟨parts, made⟩

namespace Catalog

/-- Every course of a catalog was built. -/
def Built (c : Catalog) : Prop :=
  ∀ group course, c.find? group = some course → ∃ parts, Course.build parts = .ok course

/-- All weights of all courses of a catalog are numbers. -/
def Weighed (c : Catalog) : Prop :=
  ∀ group course, c.find? group = some course → course.Weighed

/-- All fractions of all courses of a catalog are numbers. -/
def Numeric (c : Catalog) : Prop :=
  ∀ group course, c.find? group = some course → course.Numeric

theorem Built.numeric {c : Catalog} (built : c.Built) (weighed : c.Weighed) : c.Numeric := by
  intro group course found
  obtain ⟨parts, made⟩ := built group course found
  exact Course.numeric_of_build_eq_ok made (weighed group course found)

/-- Two catalogs say the same, group by group. -/
def SaysSame (a b : Catalog) : Prop :=
  ∀ group, (a.find? group).map Course.plain = (b.find? group).map Course.plain

theorem same_iff {a b : Catalog} : a.same b = true ↔ a.Numeric ∧ a.SaysSame b := by
  rw [same, NameMap.agree_iff (fun a b => Course.same_iff (a := a) (b := b)), NameMap.map_eq_iff]
  rfl

/-- Loading makes catalogs of courses that were built. -/
theorem built_of_loaded_eq_ok {fileText : String → Except String String}
    {sources : List CourseSource} {c : Catalog} (made : loaded fileText sources = .ok c) :
    c.Built := by
  intro group course found
  have isOf := isOf_of_loaded_eq_ok made
  cases last : lastSource? sources group with
  | none =>
    rw [isOf.unlisted group last] at found
    cases found
  | some source =>
    obtain ⟨own, ⟨text, -, given⟩, found'⟩ := isOf.listed group source last
    rw [found] at found'
    cases found'
    exact Course.exists_build_eq_ok_of_read given

end Catalog

/-- **Only a catalog that says the same is no change.** -/
theorem Publication.changedBy_eq_false_iff {p : Publication} {new : Catalog} :
    p.changedBy new = false ↔ p.catalog.Numeric ∧ p.catalog.SaysSame new := by
  rw [changedBy, Bool.not_eq_false', Catalog.same_iff]

/-! ## A document that is read twice -/

/-- A short document in the legacy layout. -/
def sampleText : String :=
  "[{group: a, start: 1-9-2024 0:0, deadline: 5-9-2024 0:0, tasks: [{task: t, score: 9}]}]"

def sampleSource : CourseSource := ⟨"2024", "course.yaml", .auto⟩

/-- Files that all hold the short document. -/
def sampleFile (_ : String) : Except String String := .ok sampleText

theorem exists_read_sample : ∃ c, Course.read .auto sampleText = .ok c ∧ c.Weighed := by
  have weights : ((Course.read .auto sampleText).toOption.any fun c =>
      c.scoringGroups.entries.all fun entry => !entry.2.weight.isNaN) = true := by
    decide +kernel
  cases made : Course.read .auto sampleText with
  | error e =>
    rw [made] at weights
    cases weights
  | ok course =>
    rw [made] at weights
    refine ⟨course, rfl, fun name group found => ?_⟩
    have number := List.all_eq_true.1 weights (name, group) (NameMap.find?_eq_some_iff.1 found)
    rwa [Bool.not_eq_true'] at number

theorem exists_loaded_sample : ∃ course, course.Weighed ∧
    Catalog.loaded sampleFile [sampleSource] = .ok (NameMap.empty.insert "2024" course) := by
  obtain ⟨course, made, weighed⟩ := exists_read_sample
  have own : sampleSource.loaded sampleFile = .ok course :=
    CourseSource.loaded_eq_ok_iff.2 ⟨sampleText, rfl, made⟩
  refine ⟨course, weighed, ?_⟩
  rw [← List.nil_append [sampleSource], Catalog.loaded_concat, own]
  rfl

theorem Catalog.weighed_singleton {group : String} {course : Course} (weighed : course.Weighed) :
    Catalog.Weighed (NameMap.empty.insert group course) := by
  intro other own found
  rw [NameMap.find?_insert] at found
  split at found
  · cases found
    exact weighed
  · cases found

/-! ## What is told -/

namespace Service

/-- **A change is told exactly if there is one.** Whoever publishes a catalog that does not say the
same as the one in force is told of a change, and nobody else is if the courses in force were built
and their weights are numbers. So a refresh that finds the files as they were when the catalog in
force came from them is told that nothing changed, whatever else has happened to the service. -/
theorem tells_changes (s : Service) :
    (∀ new, ¬ s.live.catalog.SaysSame new → (s.publish new).1 = true) ∧
    (s.live.catalog.Built → s.live.catalog.Weighed →
      ∀ new, (s.publish new).1 = true → ¬ s.live.catalog.SaysSame new) ∧
    (s.live.catalog.Weighed → ∀ fileText sources before changed,
      (refresh (m := Id) fileText sources before).1 = .ok changed →
      s.live = (refresh (m := Id) fileText sources before).2.live →
      (refresh (m := Id) fileText sources s).1 = .ok false) := by
  refine ⟨fun new differs => ?_, fun built weighed new changed same => ?_, ?_⟩
  · rw [← Bool.not_eq_false]
    exact fun unchanged => differs (Publication.changedBy_eq_false_iff.1 unchanged).2
  · have unchanged : s.live.changedBy new = false :=
      Publication.changedBy_eq_false_iff.2 ⟨built.numeric weighed, same⟩
    exact Bool.noConfusion (unchanged.symm.trans changed)
  · intro weighed fileText sources before changed refreshed live
    rw [refresh_eq_adopt] at refreshed live ⊢
    cases made : Catalog.loaded fileText sources with
    | error e =>
      rw [made] at refreshed
      cases refreshed
    | ok catalog =>
      rw [made] at live
      have same : s.live.catalog = catalog := by
        rw [live]
        rfl
      rw [same] at weighed
      have numeric := (Catalog.built_of_loaded_eq_ok made).numeric weighed
      have unchanged : s.live.changedBy catalog = false := by
        rw [Publication.changedBy_eq_false_iff, same]
        exact ⟨numeric, fun _ => rfl⟩
      show Except.ok (s.live.changedBy catalog) = _
      rw [unchanged]

theorem tells_changes_sample :
    ∃ before s : Service, s.live.catalog.Weighed ∧ s.live.catalog.Built ∧
      (refresh (m := Id) sampleFile [sampleSource] before).1 = .ok true ∧
      s.live = (refresh (m := Id) sampleFile [sampleSource] before).2.live ∧
      (refresh (m := Id) sampleFile [sampleSource] s).1 = .ok false ∧
      (s.publish .empty).1 = true ∧ ¬ s.live.catalog.SaysSame .empty := by
  obtain ⟨course, weighed, loaded⟩ := exists_loaded_sample
  let catalog : Catalog := NameMap.empty.insert "2024" course
  let before := start default false .empty .oneStudent
  let s : Service := { before with live := before.live.next catalog }
  have first : refresh (m := Id) sampleFile [sampleSource] before = (.ok true, s) := by
    rw [refresh_eq_adopt, loaded]
    rfl
  have given : (refresh (m := Id) sampleFile [sampleSource] before).1 = .ok true := by rw [first]
  have live : s.live = (refresh (m := Id) sampleFile [sampleSource] before).2.live := by rw [first]
  have weighed : s.live.catalog.Weighed := Catalog.weighed_singleton weighed
  have built : s.live.catalog.Built := Catalog.built_of_loaded_eq_ok loaded
  obtain ⟨told, exactly, refreshed⟩ := tells_changes s
  have changed : (s.publish .empty).1 = true := told .empty fun same => by
    have none : (catalog.find? "2024").map Course.plain = none := same "2024"
    rw [NameMap.find?_insert_self] at none
    exact Option.some_ne_none _ none
  exact ⟨before, s, weighed, built, given, live, refreshed weighed _ _ before true given live,
    changed, exactly built weighed .empty changed⟩

/-! ## A change of sign -/

/-- **A weight that becomes minus zero is no change,** although its bits are others. -/
theorem publish_minus_zero :
    Course.build (.weighing .zero) = .ok (.weighing .zero) ∧
      Course.build (.weighing (-.zero)) = .ok (.weighing (-.zero)) ∧
      Binary64.zero.toBits ≠ (-Binary64.zero).toBits ∧
      ((start default false (NameMap.empty.insert "2024" (.weighing .zero)) .oneStudent).publish
        (NameMap.empty.insert "2024" (.weighing (-.zero)))).1 = false := by
  decide

end Service
end Gradebook
