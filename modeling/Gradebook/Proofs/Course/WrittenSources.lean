/-
# Writing down course sources

A source is written as `group=path:layout` (`CourseSource.Spells`), with the name of the layout in
any letter case, and a list of sources as such entries with commas, blanks and blank entries
between them (`CourseSource.Lists`). What is written so is read back
(`CourseSource.readList_of_lists`): the first equals sign of an entry is the one after the group,
which has none, and the last colon is the one before the name of the layout, which has none either.
So a path can hold both, as long as its layout is named where it holds a colon.
-/

import Gradebook.Proofs.Course.Sources

namespace Gradebook

open Text (IsTrimmed trimChars)

/-! ## Names of layouts -/

theorem Text.toLower_of_isBlank {c : Char} (blank : isBlank c = true) : c.toLower = c := by
  refine dif_neg ?_
  rintro ⟨lower, upper⟩
  have lower : 65 ≤ c.toNat := lower
  have upper : c.toNat ≤ 90 := upper
  simp only [isBlank, inRanges, blankRanges, List.any_cons, List.any_nil, Bool.or_false,
    Bool.or_eq_true, Bool.and_eq_true, decide_eq_true_eq] at blank
  omega

namespace Course.Layout

/-- The name of a layout in small letters. -/
def name : Layout → String
  | legacy => "v1"
  | scored => "v2"
  | auto => "auto"

section

variable {layout : Layout} {s : List Char} (named : s.map Char.toLower = layout.name.toList)

include named

theorem ne_nil_of_named : s ≠ [] := by
  rintro rfl
  cases layout <;> cases named

/-- A character that is no letter is in no spelling of a name that does not have it. -/
theorem notMem_of_named {c : Char} (same : c.toLower = c) (other : c ∉ layout.name.toList) :
    c ∉ s :=
  fun mem => other (named ▸ List.mem_map.2 ⟨c, mem, same⟩)

theorem isBlank_eq_false_of_named : ∀ c ∈ s, Text.isBlank c = false := by
  have none : layout.name.toList.any Text.isBlank = false := by cases layout <;> rfl
  intro c mem
  by_contra blank
  rw [Bool.not_eq_false] at blank
  refine notMem_of_named named (Text.toLower_of_isBlank blank) (fun known => ?_) mem
  exact List.any_eq_false.1 none c known blank

theorem isTrimmed_of_named : IsTrimmed s :=
  ⟨fun c mem => isBlank_eq_false_of_named named c (List.mem_of_mem_head? mem),
    fun c mem => isBlank_eq_false_of_named named c (List.mem_of_mem_getLast? mem)⟩

/-- **A name is read in any letter case.** -/
theorem read?_of_named : read? (String.ofList s) = some layout := by
  rw [read?, String.toList_ofList, (isTrimmed_of_named named).trimChars_eq, named]
  cases layout <;> rfl

end

end Course.Layout

namespace CourseSource

/-! ## Written sources -/

/-- **A source that can be written down.** Its path can hold equals signs and colons. -/
structure Writable (source : CourseSource) : Prop where
  group_ne : source.group.toList ≠ []
  group_trimmed : IsTrimmed source.group.toList
  group_comma : ',' ∉ source.group.toList
  group_equals : '=' ∉ source.group.toList
  path_ne : source.path.toList ≠ []
  path_trimmed : IsTrimmed source.path.toList
  path_comma : ',' ∉ source.path.toList

/-- **The spellings of a source.** The layout can be left out where it is `auto` and the path has
no colon. -/
inductive Spells (source : CourseSource) : List Char → Prop
  | named {name : List Char} : name.map Char.toLower = source.layout.name.toList →
    Spells source (source.group.toList ++ '=' :: (source.path.toList ++ ':' :: name))
  | bare : ':' ∉ source.path.toList → source.layout = .auto →
    Spells source (source.group.toList ++ '=' :: source.path.toList)

/-- **The entries of a list of sources,** in order, with blanks around each and blank entries
between them. -/
inductive Lists : List CourseSource → List (List Char) → Prop
  | nil : Lists [] []
  | blank {sources : List CourseSource} {entry : List Char} {entries : List (List Char)} :
    isBlank entry = true → Lists sources entries → Lists sources (entry :: entries)
  | cons {source : CourseSource} {sources : List CourseSource} {before text after : List Char}
    {entries : List (List Char)} : isBlank before = true → isBlank after = true →
    Spells source text → Lists sources entries →
    Lists (source :: sources) ((before ++ (text ++ after)) :: entries)

/-! ## Entries -/

namespace Spells

variable {source : CourseSource} {text : List Char} (writable : source.Writable)
  (spells : source.Spells text)

include writable spells

theorem isTrimmed : IsTrimmed text := by
  cases spells with
  | bare =>
    exact writable.group_trimmed.append_cons writable.group_ne writable.path_trimmed
      writable.path_ne '='
  | named known =>
    have path := writable.path_trimmed.append_cons writable.path_ne
      (Course.Layout.isTrimmed_of_named known) (Course.Layout.ne_nil_of_named known) ':'
    exact writable.group_trimmed.append_cons writable.group_ne path (by simp) '='

theorem comma_notMem : ',' ∉ text := by
  cases spells with
  | bare => simp [writable.group_comma, writable.path_comma]
  | named known =>
    have name := Course.Layout.notMem_of_named known (c := ',') (by decide)
      (by cases source.layout <;> decide)
    simp [writable.group_comma, writable.path_comma, name]

/-- **A spelling with blanks around it** is an entry that names the source. -/
theorem names {before after : List Char} (blankBefore : isBlank before = true)
    (blankAfter : isBlank after = true) : Names (before ++ (text ++ after)) source := by
  have whole : trimChars (before ++ (text ++ after)) = text :=
    Text.trimChars_append_blanks blankBefore blankAfter (isTrimmed writable spells)
  have someGroup : isBlank source.group.toList = false :=
    writable.group_trimmed.all_isBlank writable.group_ne
  have own : source = ⟨String.ofList (trimChars source.group.toList),
      String.ofList (trimChars source.path.toList), source.layout⟩ := by
    rw [writable.group_trimmed.trimChars_eq, writable.path_trimmed.trimChars_eq,
      String.ofList_toList, String.ofList_toList]
  rw [own]
  cases spells with
  | bare noColon auto =>
    refine .intro whole writable.group_equals someGroup
      (writable.path_trimmed.all_isBlank writable.path_ne) ?_
    rw [auto]
    exact .bare fun mem => noColon (List.mem_of_mem_tail mem)
  | named known =>
    have name := Course.Layout.notMem_of_named known (c := ':') (by decide)
      (by cases source.layout <;> decide)
    have path := writable.path_trimmed.append_cons writable.path_ne
      (Course.Layout.isTrimmed_of_named known) (Course.Layout.ne_nil_of_named known) ':'
    exact .intro whole writable.group_equals someGroup (path.all_isBlank (by simp))
      (.named writable.path_ne name (Course.Layout.read?_of_named known))

end Spells

theorem comma_notMem_of_isBlank {s : List Char} (blank : isBlank s = true) : ',' ∉ s :=
  fun mem => absurd (List.all_eq_true.1 blank ',' mem) (by decide)

/-! ## Lists -/

namespace Lists

variable {sources : List CourseSource} {entries : List (List Char)}
  (writable : ∀ source ∈ sources, source.Writable) (lists : Lists sources entries)

include writable lists

theorem comma_notMem : ∀ entry ∈ entries, ',' ∉ entry := by
  induction lists with
  | nil => simp
  | blank blank _ ih =>
    exact List.forall_mem_cons.2 ⟨comma_notMem_of_isBlank blank, ih writable⟩
  | cons before after spells _ ih =>
    obtain ⟨first, rest⟩ := List.forall_mem_cons.1 writable
    refine List.forall_mem_cons.2 ⟨?_, ih rest⟩
    simp [comma_notMem_of_isBlank before, comma_notMem_of_isBlank after,
      spells.comma_notMem first]

/-- The entries that are not blank name the sources in order. -/
theorem forall₂_names :
    List.Forall₂ Names (entries.filter fun entry => !isBlank entry) sources := by
  induction lists with
  | nil => exact .nil
  | blank blank _ ih =>
    rw [List.filter_cons_of_neg (by simp [blank])]
    exact ih writable
  | @cons source _ before text after _ blankBefore blankAfter spells _ ih =>
    obtain ⟨first, rest⟩ := List.forall_mem_cons.1 writable
    have names := spells.names first blankBefore blankAfter
    have some : isBlank (before ++ (text ++ after)) = false := by
      have nonempty : text ≠ [] := by cases spells <;> simp
      have := (spells.isTrimmed first).all_isBlank nonempty
      simp [isBlank, this]
    rw [List.filter_cons_of_pos (by simp [some])]
    exact .cons names (ih rest)

end Lists

/-- **A list of sources that is written down is read back.** -/
theorem readList_of_lists {sources : List CourseSource} {entries : List (List Char)}
    (writable : ∀ source ∈ sources, source.Writable) (lists : Lists sources entries) :
    readList (String.ofList ([','].intercalate entries)) = .ok sources := by
  rw [readList_eq_ok_iff, String.toList_ofList]
  by_cases nothing : entries = []
  · subst nothing
    cases lists
    exact .nil
  · rw [List.splitOn_intercalate ',' (lists.comma_notMem writable) nothing]
    exact lists.forall₂_names writable

/-! ## A list of two sources

The path of the first has an equals sign and a colon in it, and the layout of the second is left
out. -/

def two : List CourseSource := [⟨"hse", "a=b:c.yaml", .legacy⟩, ⟨"spb", "spb.yaml", .auto⟩]

def twoEntries : List (List Char) :=
  [" ".toList ++ ("hse=a=b:c.yaml:V1".toList ++ "\t".toList), " ".toList,
    [] ++ ("spb=spb.yaml".toList ++ [])]

theorem writable_two : ∀ source ∈ two, source.Writable := by
  refine List.forall_mem_cons.2 ⟨?_, List.forall_mem_singleton.2 ?_⟩ <;>
    exact ⟨by decide, by decide, by decide, by decide, by decide, by decide, by decide⟩

theorem lists_two : Lists two twoEntries :=
  .cons rfl rfl (.named (by decide)) (.blank rfl (.cons rfl rfl (.bare (by decide) rfl) .nil))

theorem readList_of_lists_two :
    (∀ source ∈ two, source.Writable) ∧ Lists two twoEntries ∧
      readList (String.ofList ([','].intercalate twoEntries)) = .ok two :=
  ⟨writable_two, lists_two, readList_of_lists writable_two lists_two⟩

end CourseSource
end Gradebook
