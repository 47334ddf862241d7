/-
# Lists of course sources

An entry names a group before its first equals sign and a document after it, with the name of a
layout after the last colon (`CourseSource.Names`). A list is read if each entry that is not blank
names a source, and gives these sources in order (`CourseSource.readList_eq_ok_iff`). A group and
what follows the equals sign must not be blank. The path is what is left of the latter without the
layout, and it is not looked at again, so it can still be blank (`CourseSource.LacksPath`).
-/

import Gradebook.Course.Source
import Gradebook.Proofs.Course.Soundness
import Gradebook.Proofs.Text.Splitting

namespace Gradebook
namespace CourseSource

open Text (IsTrimmed trimChars)

/-- **A path with the layout of its document.** A colon in front of everything else does not
separate the two. -/
inductive Target : List Char → List Char → Course.Layout → Prop
  | bare {path : List Char} : ':' ∉ path.tail → Target path path .auto
  | named {path name : List Char} {layout : Course.Layout} : path ≠ [] → ':' ∉ name →
    Course.Layout.read? (String.ofList name) = some layout →
    Target (path ++ ':' :: name) path layout

/-- **An entry that names a source.** -/
inductive Names (entry : List Char) : CourseSource → Prop
  | intro {group rest path : List Char} {layout : Course.Layout} :
    trimChars entry = group ++ '=' :: rest → '=' ∉ group → isBlank group = false →
    isBlank rest = false → Target rest path layout →
    Names entry ⟨String.ofList (trimChars group), String.ofList (trimChars path), layout⟩

/-- **An entry with nothing but blanks** between its equals sign and the colon of its layout. -/
def LacksPath (entry : List Char) : Prop :=
  ∃ group path name, trimChars entry = group ++ '=' :: (path ++ ':' :: name) ∧ '=' ∉ group ∧
    ':' ∉ name ∧ path ≠ [] ∧ isBlank path = true

/-! ## Entries -/

theorem target_eq_ok_iff {rest path : List Char} {layout : Course.Layout} :
    target rest = .ok (path, layout) ↔ Target rest path layout := by
  constructor
  · intro read
    unfold target at read
    split at read
    · next none =>
      cases read
      exact .bare fun mem => Text.splitLast?_eq_none_iff.1 none (List.mem_of_mem_tail mem)
    · next before name found =>
      obtain ⟨rfl, last⟩ := Text.splitLast?_eq_some_iff.1 found
      split at read
      · next empty =>
        cases read
        rw [List.isEmpty_iff.1 empty]
        exact .bare last
      · next nonempty =>
        split at read
        · next known =>
          cases read
          exact .named (by simpa using nonempty) last known
        · cases read
  · intro names
    unfold target
    cases names with
    | bare noColon =>
      cases found : Text.splitLast? ':' rest with
      | none => rfl
      | some pieces =>
        obtain ⟨before, name⟩ := pieces
        obtain ⟨rfl, -⟩ := Text.splitLast?_eq_some_iff.1 found
        cases before with
        | nil => rfl
        | cons c before => exact absurd (List.mem_append_right _ List.mem_cons_self) noColon
    | named nonempty last known =>
      rw [Text.splitLast?_eq_some_iff.2 ⟨rfl, last⟩]
      simp [nonempty, known]

theorem readEntry_eq_ok_iff {entry : List Char} {source : CourseSource} :
    readEntry (trimChars entry) = .ok source ↔ Names entry source := by
  constructor
  · intro read
    unfold readEntry at read
    split at read
    · cases read
    · next group rest found =>
      obtain ⟨whole, first⟩ := Text.splitFirst?_eq_some_iff.1 found
      split at read
      · cases read
      · next shape =>
        simp only [Bool.or_eq_true, not_or, Bool.not_eq_true] at shape
        cases made : target rest with
        | error e =>
          rw [made] at read
          cases read
        | ok pair =>
          rw [made] at read
          cases read
          exact .intro whole first shape.1 shape.2 (target_eq_ok_iff.1 made)
  · rintro ⟨whole, first, someGroup, someRest, names⟩
    rw [readEntry, Text.splitFirst?_eq_some_iff.2 ⟨whole, first⟩]
    dsimp only
    rw [someGroup, someRest, target_eq_ok_iff.2 names]
    rfl

/-- **A list is read** if its entries name sources, and as the list of these. -/
theorem readList_eq_ok_iff {s : String} {sources : List CourseSource} :
    readList s = .ok sources ↔
      List.Forall₂ Names ((s.toList.splitOn ',').filter fun entry => !isBlank entry) sources := by
  have entries : ((s.toList.splitOn ',').map trimChars).filter (· ≠ []) =
      ((s.toList.splitOn ',').filter fun entry => !isBlank entry).map trimChars := by
    rw [List.filter_map]
    congr 2
    funext entry
    rw [Function.comp_apply, Bool.eq_iff_iff, decide_eq_true_iff, Bool.not_eq_true',
      ← Bool.not_eq_true, ne_eq, Text.trimChars_eq_nil_iff]
    rfl
  rw [readList, Text.splitAll_eq_splitOn, entries, mapM_eq_ok_iff, List.forall₂_map_left_iff]
  simp only [readEntry_eq_ok_iff]

/-! ## Groups and paths -/

theorem ofList_trimChars_eq_iff {s : List Char} :
    String.ofList (trimChars s) = "" ↔ isBlank s = true := by
  rw [isBlank, ← Text.trimChars_eq_nil_iff, String.ofList_eq_empty_iff]

section

variable {entry : List Char} {source : CourseSource} (names : Names entry source)

include names

theorem Names.group_ne : source.group ≠ "" := by
  obtain ⟨-, -, some, -, -⟩ := names
  rw [ne_eq, ofList_trimChars_eq_iff, some]
  decide

theorem Names.isTrimmed_group : IsTrimmed source.group.toList := by
  obtain ⟨-, -, -, -, -⟩ := names
  rw [String.toList_ofList]
  exact Text.isTrimmed_trimChars _

theorem Names.isTrimmed_path : IsTrimmed source.path.toList := by
  obtain ⟨-, -, -, -, -⟩ := names
  rw [String.toList_ofList]
  exact Text.isTrimmed_trimChars _

/-- **A path is empty** exactly where the entry lacks one before the colon. -/
theorem Names.path_eq_iff : source.path = "" ↔ LacksPath entry := by
  obtain ⟨whole, first, -, some, target⟩ := names
  rw [ofList_trimChars_eq_iff]
  constructor
  · intro blank
    cases target with
    | bare =>
      rw [some] at blank
      cases blank
    | named nonempty last => exact ⟨_, _, _, whole, first, last, nonempty, blank⟩
  · rintro ⟨group', path', name', whole', first', last', nonempty', blank⟩
    obtain ⟨-, rest⟩ := Text.eq_of_first (whole.symm.trans whole') first first'
    cases target with
    | bare noColon =>
      obtain ⟨c, path', rfl⟩ := List.exists_cons_of_ne_nil nonempty'
      rw [rest] at noColon
      exact absurd (List.mem_append_right _ List.mem_cons_self) noColon
    | named _ last =>
      obtain ⟨rfl, -⟩ := Text.eq_of_last rest last last'
      exact blank

end

/-- **Sources that are read** are those of the entries that are not blank, in order. Their groups
and paths have no blanks at the ends, no group is empty, and a path is empty exactly where nothing
but blanks stands in front of the colon. -/
theorem readList_usable {s : String} {sources : List CourseSource}
    (read : readList s = .ok sources) :
    List.Forall₂ (fun entry source => Names entry source ∧
      source.group ≠ "" ∧ IsTrimmed source.group.toList ∧ IsTrimmed source.path.toList ∧
      (source.path = "" ↔ LacksPath entry))
      ((s.toList.splitOn ',').filter fun entry => !isBlank entry) sources :=
  (readList_eq_ok_iff.1 read).imp fun _ _ names =>
    ⟨names, names.group_ne, names.isTrimmed_group, names.isTrimmed_path, names.path_eq_iff⟩

theorem readList_usable_two :
    ∃ sources, readList "hse = deadlines.yaml:v1, ,spb=courses/spb.yaml" = .ok sources ∧
      List.Forall₂ (fun entry source => Names entry source ∧
        source.group ≠ "" ∧ IsTrimmed source.group.toList ∧ IsTrimmed source.path.toList ∧
        (source.path = "" ↔ LacksPath entry))
        (("hse = deadlines.yaml:v1, ,spb=courses/spb.yaml".toList.splitOn ',').filter
          fun entry => !isBlank entry) sources := by
  have read : readList "hse = deadlines.yaml:v1, ,spb=courses/spb.yaml" =
      .ok [⟨"hse", "deadlines.yaml", .legacy⟩, ⟨"spb", "courses/spb.yaml", .auto⟩] := by decide
  exact ⟨_, read, readList_usable read⟩

/-- Blanks in front of the colon are a path until they are trimmed. -/
theorem readList_blankPath : readList "g=  :v1" = .ok [⟨"g", "", .legacy⟩] := by decide

end CourseSource
end Gradebook
