/-
# Refreshing is all or nothing

A refresh reads the sources in the order in which they are listed and builds up a catalog. The
catalog is published only when all sources have a course (`Catalog.loaded_eq_ok_iff`). The first
that has none decides about the error (`Catalog.loaded_eq_error_iff`), and then nothing changes, the
number of the publication in force included. So after any run of publications and refreshes the
catalog in force is the whole of one that was published, namely the last.
-/

import Mathlib.Data.List.Induction
import Gradebook.Proofs.Service.Ledger

namespace Gradebook

/-! ## Sources and their catalog -/

section

variable (fileText : String → Except String String)

/-- What a source gives when the files hold given texts. -/
def CourseSource.loaded (s : CourseSource) : Except CourseError Course :=
  (s.load (m := Id) fileText).run

/-- What a list of sources gives. -/
def Catalog.loaded (sources : List CourseSource) : Except CourseError Catalog :=
  (Catalog.load (m := Id) fileText sources).run

/-- The document of a source can be read and is that of a course. -/
def CourseSource.Loads (s : CourseSource) (course : Course) : Prop :=
  ∃ text, fileText s.path = .ok text ∧ Course.read s.layout text = .ok course

/-- **Why a source has no course:** there is no text, or the text is not that of a course. -/
inductive CourseSource.Fails (s : CourseSource) : CourseError → Prop
  | unreadable {reason} (missing : fileText s.path = .error reason) :
    s.Fails (.unreadable s.path reason)
  | invalid {text e} (there : fileText s.path = .ok text)
    (refused : Course.read s.layout text = .error e) : s.Fails (.inGroup s.group e)

/-- All sources of a list have a course. -/
def AllLoad (sources : List CourseSource) : Prop :=
  ∀ s ∈ sources, ∃ course, s.Loads fileText course

/-- **The error of a list of sources** is the one of the first that has no course. -/
def FirstFailure (sources : List CourseSource) (e : CourseError) : Prop :=
  ∃ before s later, sources = before ++ s :: later ∧ AllLoad fileText before ∧ s.Fails fileText e

/-- The last source that is listed for a group. -/
def lastSource? (sources : List CourseSource) (group : String) : Option CourseSource :=
  sources.reverse.find? (·.group = group)

/-- **The catalog of a list of sources:** every group has the course of the source that is listed
last for it, and no other group has one. -/
structure Catalog.IsOf (sources : List CourseSource) (c : Catalog) : Prop where
  listed : ∀ group s, lastSource? sources group = some s →
    ∃ course, s.Loads fileText course ∧ c.find? group = some course
  unlisted : ∀ group, lastSource? sources group = none → c.find? group = none

end

variable {fileText : String → Except String String}

/-! ## One source -/

namespace CourseSource

variable {s : CourseSource}

theorem loaded_eq_match (fileText : String → Except String String) (s : CourseSource) :
    s.loaded fileText = match fileText s.path with
      | .error reason => .error (.unreadable s.path reason)
      | .ok text => match Course.read s.layout text with
        | .ok course => .ok course
        | .error e => .error (.inGroup s.group e) := by
  rw [loaded, load, ExceptT.run_bind]
  show (match fileText s.path with
      | .error reason => throw (CourseError.unreadable s.path reason)
      | .ok text => match Course.read s.layout text with
        | .ok course => pure course
        | .error e => throw (CourseError.inGroup s.group e) : ExceptT CourseError Id Course).run = _
  rcases fileText s.path with reason | text
  · rfl
  · dsimp only
    rcases Course.read s.layout text with e | course <;> rfl

theorem loaded_eq_ok_iff {course : Course} :
    s.loaded fileText = .ok course ↔ s.Loads fileText course := by
  rw [loaded_eq_match]
  constructor
  · intro loaded
    split at loaded
    · cases loaded
    · next text there =>
      split at loaded
      · next made =>
        cases loaded
        exact ⟨text, there, made⟩
      · cases loaded
  · rintro ⟨text, there, made⟩
    simp only [there, made]

theorem loaded_eq_error_iff {e : CourseError} :
    s.loaded fileText = .error e ↔ s.Fails fileText e := by
  rw [loaded_eq_match]
  constructor
  · intro failed
    split at failed
    · next missing =>
      cases failed
      exact .unreadable missing
    · next there =>
      split at failed
      · cases failed
      · next refused =>
        cases failed
        exact .invalid there refused
  · rintro (missing | ⟨there, refused⟩)
    · simp only [missing]
    · simp only [there, refused]

/-- A source has one course at most. -/
theorem Loads.unique {c d : Course} (hc : s.Loads fileText c) (hd : s.Loads fileText d) : c = d :=
  Except.ok.inj ((loaded_eq_ok_iff.2 hc).symm.trans (loaded_eq_ok_iff.2 hd))

end CourseSource

/-! ## A list of sources -/

theorem lastSource?_concat (sources : List CourseSource) (s : CourseSource) (group : String) :
    lastSource? (sources ++ [s]) group =
      if s.group = group then some s else lastSource? sources group := by
  rw [lastSource?, List.reverse_concat, List.find?_cons, lastSource?]
  by_cases same : s.group = group <;> simp [same]

theorem allLoad_concat {sources : List CourseSource} {s : CourseSource} :
    AllLoad fileText (sources ++ [s]) ↔
      AllLoad fileText sources ∧ ∃ course, s.Loads fileText course := by
  simp [AllLoad, or_imp, forall_and]

/-- The error of a list comes from before its last source, or else from that source. -/
theorem firstFailure_concat {sources : List CourseSource} {s : CourseSource} {e : CourseError} :
    FirstFailure fileText (sources ++ [s]) e ↔
      FirstFailure fileText sources e ∨ AllLoad fileText sources ∧ s.Fails fileText e := by
  constructor
  · rintro ⟨before, first, later, split, load, fails⟩
    rcases List.eq_nil_or_concat later with rfl | ⟨later, last, rfl⟩
    · obtain ⟨rfl, same⟩ := List.append_inj' split rfl
      cases same
      exact .inr ⟨load, fails⟩
    · rw [List.concat_eq_append, ← List.cons_append, ← List.append_assoc] at split
      obtain ⟨rfl, -⟩ := List.append_inj' split rfl
      exact .inl ⟨before, first, later, rfl, load, fails⟩
  · rintro (⟨before, first, later, rfl, load, fails⟩ | ⟨load, fails⟩)
    · exact ⟨before, first, later ++ [s], by simp, load, fails⟩
    · exact ⟨sources, s, [], rfl, load, fails⟩

namespace Catalog

/-- Loading one more source reads it after the others and sets the course of its group. -/
theorem loaded_concat (sources : List CourseSource) (s : CourseSource) :
    loaded fileText (sources ++ [s]) =
      match loaded fileText sources with
      | .error e => .error e
      | .ok c => match s.loaded fileText with
        | .error e => .error e
        | .ok course => .ok (c.insert s.group course) := by
  rw [loaded, load, List.foldlM_append, loaded, CourseSource.loaded]
  simp only [List.foldlM_cons, List.foldlM_nil, bind_pure, ExceptT.run_bind]
  rw [← load]
  rcases (load (m := Id) fileText sources).run with e | c
  · rfl
  · rcases (s.load (m := Id) fileText).run with e | course <;> rfl

namespace IsOf

variable {sources : List CourseSource} {c d : Catalog}

theorem nil : IsOf fileText [] .empty where
  listed _ _ last := by cases last
  unlisted _ _ := rfl

/-- The course of one more source takes the place of one that its group had. -/
theorem concat (is : c.IsOf fileText sources) {s : CourseSource} {course : Course}
    (loads : s.Loads fileText course) :
    IsOf fileText (sources ++ [s]) (c.insert s.group course) where
  listed group last found := by
    rw [lastSource?_concat] at found
    rw [NameMap.find?_insert]
    split at found
    · next same =>
      cases found
      exact ⟨course, loads, if_pos same.symm⟩
    · next differs =>
      rw [if_neg (Ne.symm differs)]
      exact is.listed group last found
  unlisted group none := by
    rw [lastSource?_concat] at none
    rw [NameMap.find?_insert]
    split at none
    · cases none
    · next differs =>
      rw [if_neg (Ne.symm differs)]
      exact is.unlisted group none

/-- A list of sources has one catalog at most. -/
theorem unique (hc : c.IsOf fileText sources) (hd : d.IsOf fileText sources) : c = d := by
  refine NameMap.ext fun group => ?_
  cases last : lastSource? sources group with
  | none => rw [hc.unlisted group last, hd.unlisted group last]
  | some s =>
    obtain ⟨course, loads, found⟩ := hc.listed group s last
    obtain ⟨other, loads', found'⟩ := hd.listed group s last
    rw [found, found', loads.unique loads']

end IsOf

variable {sources : List CourseSource}

theorem exists_loaded_eq_ok_iff :
    (∃ c, loaded fileText sources = .ok c) ↔ AllLoad fileText sources := by
  induction sources using List.reverseRecOn with
  | nil => exact ⟨fun _ => nofun, fun _ => ⟨_, rfl⟩⟩
  | append_singleton sources s ih =>
    simp only [allLoad_concat, ← ih, ← CourseSource.loaded_eq_ok_iff, loaded_concat]
    rcases loaded fileText sources with e | c
    · simp
    · rcases s.loaded fileText with e | course <;> simp

theorem isOf_of_loaded_eq_ok {c : Catalog} (made : loaded fileText sources = .ok c) :
    c.IsOf fileText sources := by
  induction sources using List.reverseRecOn generalizing c with
  | nil =>
    cases made
    exact .nil
  | append_singleton sources s ih =>
    rw [loaded_concat] at made
    split at made
    · cases made
    · next before =>
      split at made
      · cases made
      · next own =>
        cases made
        exact (ih before).concat (CourseSource.loaded_eq_ok_iff.1 own)

/-- **Loading gives the catalog of the sources** if all of them have a course. -/
theorem loaded_eq_ok_iff {c : Catalog} :
    loaded fileText sources = .ok c ↔ AllLoad fileText sources ∧ c.IsOf fileText sources := by
  constructor
  · intro loaded
    exact ⟨exists_loaded_eq_ok_iff.1 ⟨c, loaded⟩, isOf_of_loaded_eq_ok loaded⟩
  · rintro ⟨all, is⟩
    obtain ⟨made, loaded⟩ := exists_loaded_eq_ok_iff.2 all
    rw [loaded, (isOf_of_loaded_eq_ok loaded).unique is]

/-- **Loading gives the error of the first source that has no course.** -/
theorem loaded_eq_error_iff {e : CourseError} :
    loaded fileText sources = .error e ↔ FirstFailure fileText sources e := by
  induction sources using List.reverseRecOn with
  | nil =>
    constructor
    · intro failed
      cases failed
    · rintro ⟨before, s, later, split, -⟩
      simp at split
  | append_singleton sources s ih =>
    rw [firstFailure_concat, ← ih, ← exists_loaded_eq_ok_iff, ← CourseSource.loaded_eq_error_iff,
      loaded_concat]
    rcases loaded fileText sources with e' | c
    · simp
    · rcases s.loaded fileText with e' | course <;> simp

end Catalog

/-! ## Refreshes -/

namespace Service

/-- **A refresh is all or nothing.** -/
structure Refreshed (fileText : String → Except String String) (sources : List CourseSource)
    (s : Service) (given : Except CourseError Bool) (after : Service) : Prop where
  succeeds : (∃ changed, given = .ok changed) ↔ AllLoad fileText sources
  /-- The catalog of the sources is published, and nothing else changes. -/
  published : ∀ changed, given = .ok changed → ∃ catalog : Catalog,
    catalog.IsOf fileText sources ∧ changed = s.live.changedBy catalog ∧
      after = { s with live := s.live.next catalog }
  failed : ∀ e, given = .error e ↔ FirstFailure fileText sources e
  kept : ∀ e, given = .error e → after = s

/-- A refresh adopts what its sources give. -/
theorem refresh_eq_adopt (fileText : String → Except String String)
    (sources : List CourseSource) (s : Service) :
    refresh (m := Id) fileText sources s = s.adopt (Catalog.loaded fileText sources) :=
  rfl

theorem refreshed (fileText : String → Except String String) (sources : List CourseSource)
    (s : Service) :
    Refreshed fileText sources s (refresh (m := Id) fileText sources s).1
      (refresh (m := Id) fileText sources s).2 := by
  rw [refresh_eq_adopt]
  cases loaded : Catalog.loaded fileText sources with
  | ok catalog =>
    have all := Catalog.exists_loaded_eq_ok_iff.1 ⟨catalog, loaded⟩
    exact
      { succeeds := ⟨fun _ => all, fun _ => ⟨_, rfl⟩⟩
        published := fun changed given => by
          cases given
          exact ⟨catalog, Catalog.isOf_of_loaded_eq_ok loaded, rfl, rfl⟩
        failed := fun e => by
          rw [← Catalog.loaded_eq_error_iff, loaded]
          exact ⟨nofun, nofun⟩
        kept := fun e given => by cases given }
  | error e =>
    exact
      { succeeds := by
          rw [← Catalog.exists_loaded_eq_ok_iff, loaded]
          exact ⟨nofun, nofun⟩
        published := fun changed given => by cases given
        failed := fun e' => by
          rw [← Catalog.loaded_eq_error_iff, loaded]
          exact ⟨fun given => by cases given; rfl, fun given => by cases given; rfl⟩
        kept := fun _ _ => rfl }

/-! ## Runs of publications and refreshes -/

/-- What changes the publication in force. A refresh finds the files as they are at its time. -/
inductive Update where
  | replace (catalog : Catalog)
  | refresh (fileText : String → Except String String) (sources : List CourseSource)

namespace Update

/-- The service after an update. -/
def apply (s : Service) : Update → Service
  | replace catalog => (s.publish catalog).2
  | refresh fileText sources => (s.refresh (m := Id) fileText sources).2

/-- An update publishes a catalog: the one that it names, or the one of sources that all have a
course. -/
def Publishes (catalog : Catalog) : Update → Prop
  | replace named => named = catalog
  | refresh fileText sources => AllLoad fileText sources ∧ catalog.IsOf fileText sources

theorem apply_of_publishes {u : Update} {catalog : Catalog} (publishes : u.Publishes catalog)
    (s : Service) : u.apply s = { s with live := s.live.next catalog } := by
  cases u with
  | replace named =>
    cases publishes
    rfl
  | refresh fileText sources =>
    rw [apply, refresh_eq_adopt, Catalog.loaded_eq_ok_iff.2 publishes]
    rfl

/-- An update that publishes nothing changes nothing. -/
theorem apply_of_not_publishes {u : Update} (fails : ∀ catalog, ¬ u.Publishes catalog)
    (s : Service) : u.apply s = s := by
  cases u with
  | replace named => exact absurd rfl (fails named)
  | refresh fileText sources =>
    rw [apply, refresh_eq_adopt]
    cases loaded : Catalog.loaded fileText sources with
    | ok catalog => exact absurd (Catalog.loaded_eq_ok_iff.1 loaded) (fails catalog)
    | error e => rfl

end Update

/-- The service after updates. -/
def updated (s : Service) (updates : List Update) : Service := updates.foldl Update.apply s

theorem updated_concat (s : Service) (updates : List Update) (u : Update) :
    s.updated (updates ++ [u]) = u.apply (s.updated updates) := by
  rw [updated, List.foldl_append, List.foldl_cons, List.foldl_nil, updated]

/-- **The publication in force after updates is the last that they made,** as a whole, and nothing
else of the service has changed. -/
inductive LastPublished (s : Service) (updates : List Update) : Prop
  | published {before u later catalog} (split : updates = before ++ u :: later)
    (publishes : u.Publishes catalog) (others : ∀ v ∈ later, ∀ other, ¬ v.Publishes other)
    (whole : s.updated updates = { s with live := (s.updated before).live.next catalog })
  | kept (fail : ∀ u ∈ updates, ∀ catalog, ¬ u.Publishes catalog) (same : s.updated updates = s)

namespace LastPublished

variable {s : Service} {updates : List Update} {u : Update}

/-- Updates change the publication in force alone. -/
theorem rest (last : LastPublished s updates) :
    s.updated updates = { s with live := (s.updated updates).live } := by
  rcases last with ⟨-, -, -, whole⟩ | ⟨-, same⟩
  · rw [whole]
  · rw [same]

theorem concat (last : LastPublished s updates) (u : Update) :
    LastPublished s (updates ++ [u]) := by
  by_cases publishes : ∃ catalog, u.Publishes catalog
  · obtain ⟨catalog, publishes⟩ := publishes
    refine .published rfl publishes (fun _ mem => absurd mem List.not_mem_nil) ?_
    rw [updated_concat, Update.apply_of_publishes publishes, last.rest]
  · have fails : ∀ catalog, ¬ u.Publishes catalog := not_exists.1 publishes
    have still : s.updated (updates ++ [u]) = s.updated updates := by
      rw [updated_concat, Update.apply_of_not_publishes fails]
    rcases last with ⟨rfl, published, others, whole⟩ | ⟨fail, same⟩
    · refine .published (List.append_assoc _ _ _) published (fun v mem => ?_) (still.trans whole)
      rcases List.mem_append.1 mem with mem | mem
      · exact others v mem
      · rwa [List.mem_singleton.1 mem]
    · refine .kept (fun v mem => ?_) (still.trans same)
      rcases List.mem_append.1 mem with mem | mem
      · exact fail v mem
      · rwa [List.mem_singleton.1 mem]

end LastPublished

theorem lastPublished_updated (s : Service) (updates : List Update) : LastPublished s updates := by
  induction updates using List.reverseRecOn with
  | nil => exact .kept (fun _ mem => absurd mem List.not_mem_nil) rfl
  | append_singleton updates u ih => exact ih.concat u

/-- **Refreshing is all or nothing.** Whatever the sources are and whatever the files hold, a
refresh publishes the catalog of all sources or changes nothing and tells why the first of them
failed. So after any run of publications and refreshes the catalog in force is the last that was
published. -/
theorem refresh_all_or_nothing (s : Service) :
    (∀ fileText sources, Refreshed fileText sources s (refresh (m := Id) fileText sources s).1
      (refresh (m := Id) fileText sources s).2) ∧
    ∀ updates, LastPublished s updates :=
  ⟨fun fileText sources => refreshed fileText sources s, lastPublished_updated s⟩

end Service
end Gradebook
