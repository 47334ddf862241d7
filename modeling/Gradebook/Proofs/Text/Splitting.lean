/-
# Splitting and trimming

A text is cut at the first or the last of a separator, or at each of them; what is said of the
pieces here determines them. A trimmed text has no blank at either end, and nothing is left of a
text exactly if it has nothing but blanks. Where two texts are put together the blanks between them
are kept (`Text.exists_trimChars_append`).
-/

import Gradebook.Text.Blank
import Gradebook.Text.Split
import Gradebook.Proofs.Text.Runs
import Mathlib.Data.List.DropRight

namespace Gradebook
namespace Text

/-! ## Splitting -/

section

variable {separator : Char} {s before after before' after' : List Char}

/-- **The first separator** is the one with none before it. -/
theorem splitFirst?_eq_some_iff : splitFirst? separator s = some (before, after) ↔
    s = before ++ separator :: after ∧ separator ∉ before := by
  induction s generalizing before with
  | nil => simp [splitFirst?]
  | cons c s ih =>
    by_cases same : c = separator
    · subst same
      rw [splitFirst?, if_pos rfl]
      cases before <;> simp +contextual
    · rw [splitFirst?, if_neg same, Option.map_eq_some_iff]
      constructor
      · rintro ⟨⟨before, after⟩, split, pair⟩
        cases pair
        obtain ⟨rfl, first⟩ := ih.1 split
        exact ⟨rfl, by simp [first, Ne.symm same]⟩
      · rintro ⟨whole, first⟩
        cases before with
        | nil => exact absurd (List.cons.inj whole).1 same
        | cons d before =>
          obtain ⟨rfl, rfl⟩ := List.cons.inj whole
          exact ⟨(before, after), ih.2 ⟨rfl, fun mem => first (List.mem_cons_of_mem _ mem)⟩, rfl⟩

theorem eq_of_first (same : before ++ separator :: after = before' ++ separator :: after')
    (first : separator ∉ before) (first' : separator ∉ before') :
    before = before' ∧ after = after' := by
  have split := splitFirst?_eq_some_iff.2 ⟨same, first'⟩
  rw [splitFirst?_eq_some_iff.2 ⟨rfl, first⟩] at split
  exact Prod.mk.inj (Option.some.inj split)

theorem splitLast?_eq_none_iff : splitLast? separator s = none ↔ separator ∉ s := by
  induction s with
  | nil => simp [splitLast?]
  | cons c s ih =>
    rw [splitLast?]
    cases found : splitLast? separator s with
    | some pieces =>
      have mem : separator ∈ s := by
        by_contra other
        rw [ih.2 other] at found
        cases found
      simp [mem]
    | none => simp [ih.1 found, eq_comm]

/-- **The last separator** is the one with none after it. -/
theorem splitLast?_eq_some_iff : splitLast? separator s = some (before, after) ↔
    s = before ++ separator :: after ∧ separator ∉ after := by
  induction s generalizing before after with
  | nil => simp [splitLast?]
  | cons c s ih =>
    rw [splitLast?]
    cases found : splitLast? separator s with
    | some pieces =>
      obtain ⟨before', after'⟩ := pieces
      obtain ⟨rfl, last'⟩ := ih.1 found
      constructor
      · rintro ⟨⟩
        exact ⟨rfl, last'⟩
      · rintro ⟨whole, last⟩
        cases before with
        | nil =>
          obtain ⟨-, rfl⟩ := List.cons.inj whole
          exact absurd (List.mem_append_right _ List.mem_cons_self) last
        | cons d before =>
          obtain ⟨rfl, rest⟩ := List.cons.inj whole
          rw [ih.2 ⟨rest, last⟩] at found
          cases found
          rfl
    | none =>
      have noneLeft := splitLast?_eq_none_iff.1 found
      rw [Option.ite_none_right_eq_some]
      constructor
      · rintro ⟨rfl, pieces⟩
        cases pieces
        exact ⟨rfl, noneLeft⟩
      · rintro ⟨whole, -⟩
        cases before with
        | nil =>
          obtain ⟨rfl, rfl⟩ := List.cons.inj whole
          exact ⟨rfl, rfl⟩
        | cons d before =>
          obtain ⟨-, rfl⟩ := List.cons.inj whole
          exact absurd (List.mem_append_right _ List.mem_cons_self) noneLeft

theorem eq_of_last (same : before ++ separator :: after = before' ++ separator :: after')
    (last : separator ∉ after) (last' : separator ∉ after') :
    before = before' ∧ after = after' := by
  have split := splitLast?_eq_some_iff.2 ⟨same, last'⟩
  rw [splitLast?_eq_some_iff.2 ⟨rfl, last⟩] at split
  exact Prod.mk.inj (Option.some.inj split)

/-- The parts between separators are those that the library cuts a list into. -/
theorem splitAll_eq_splitOn (separator : Char) (s : List Char) :
    splitAll separator s = s.splitOn separator := by
  rw [List.splitOn_eq_splitOnP]
  induction s with
  | nil => rfl
  | cons c s ih =>
    obtain ⟨part, parts, cut⟩ :=
      List.exists_cons_of_ne_nil (List.splitOnP_ne_nil (· == separator) s)
    rw [List.splitOnP_cons_eq_if_modifyHead, splitAll, ih, cut]
    by_cases same : c = separator <;> simp [same]

end

/-! ## Trimming -/

/-- **A text without blanks at its ends.** -/
def IsTrimmed (s : List Char) : Prop :=
  (∀ c ∈ s.head?, isBlank c = false) ∧ ∀ c ∈ s.getLast?, isBlank c = false

theorem trimChars_eq (s : List Char) :
    trimChars s = (s.dropWhile isBlank).rdropWhile isBlank := rfl

theorem isTrimmed_trimChars (s : List Char) : IsTrimmed (trimChars s) := by
  rw [trimChars_eq]
  constructor
  · intro c first
    -- Cutting off the end keeps the beginning.
    obtain ⟨cut, whole⟩ := List.rdropWhile_prefix isBlank (l := s.dropWhile isBlank)
    refine ends_dropWhile isBlank s c ?_
    rw [← whole, List.head?_append, Option.mem_def.1 first]
    rfl
  · intro c last
    obtain ⟨nonempty, rfl⟩ := List.mem_getLast?_eq_getLast last
    simpa using List.rdropWhile_last_not isBlank _ nonempty

/-- Nothing is left of a text that has nothing but blanks. -/
theorem trimChars_eq_nil_iff {s : List Char} : trimChars s = [] ↔ s.all isBlank = true := by
  rw [trimChars_eq, List.rdropWhile_eq_nil_iff, List.all_eq_true]
  constructor
  · intro all
    have nothing : s.dropWhile isBlank = [] := by
      have ends := ends_dropWhile isBlank s
      cases left : s.dropWhile isBlank with
      | nil => rfl
      | cons c rest =>
        rw [left] at ends all
        have blank := all c List.mem_cons_self
        rw [ends c rfl] at blank
        cases blank
    exact List.dropWhile_eq_nil_iff.1 nothing
  · intro all c mem
    exact all c ((List.dropWhile_sublist isBlank).mem mem)

/-- **Blanks around a trimmed text** are all that is cut off. -/
theorem trimChars_append_blanks {before s after : List Char}
    (blankBefore : before.all isBlank = true) (blankAfter : after.all isBlank = true)
    (trimmed : IsTrimmed s) : trimChars (before ++ (s ++ after)) = s := by
  rw [List.all_eq_true] at blankBefore blankAfter
  by_cases nothing : s = []
  · rw [nothing, trimChars_eq_nil_iff, List.all_eq_true]
    simpa [or_imp, forall_and] using ⟨blankBefore, blankAfter⟩
  · have first : ∀ c ∈ (s ++ after).head?, isBlank c = false := by
      rw [List.head?_append_of_ne_nil s nothing]
      exact trimmed.1
    have last : ∀ c ∈ s.reverse.head?, isBlank c = false := by
      rw [List.head?_reverse]
      exact trimmed.2
    rw [trimChars_eq, dropWhile_append_of_ends blankBefore first, List.rdropWhile,
      List.reverse_append, dropWhile_append_of_ends (by simpa using blankAfter) last,
      List.reverse_reverse]

theorem IsTrimmed.trimChars_eq {s : List Char} (trimmed : IsTrimmed s) : trimChars s = s := by
  simpa using @trimChars_append_blanks [] s [] rfl rfl trimmed

theorem trimChars_eq_self_iff {s : List Char} : trimChars s = s ↔ IsTrimmed s :=
  ⟨fun same => same ▸ isTrimmed_trimChars s, IsTrimmed.trimChars_eq⟩

instance (s : List Char) : Decidable (IsTrimmed s) := decidable_of_iff _ trimChars_eq_self_iff

theorem IsTrimmed.all_isBlank {s : List Char} (trimmed : IsTrimmed s) (nonempty : s ≠ []) :
    s.all isBlank = false := by
  rwa [← Bool.not_eq_true, ← trimChars_eq_nil_iff, trimmed.trimChars_eq]

section

variable {s t : List Char}

/-- A text is trimmed if what it starts with and what it ends with are. -/
theorem IsTrimmed.append (startTrimmed : IsTrimmed s) (start : s ≠ []) (endTrimmed : IsTrimmed t)
    (last : t ≠ []) (between : List Char) : IsTrimmed (s ++ (between ++ t)) := by
  constructor
  · rw [List.head?_append_of_ne_nil s start]
    exact startTrimmed.1
  · rw [← List.append_assoc, List.getLast?_append_of_ne_nil _ last]
    exact endTrimmed.2

theorem IsTrimmed.append_cons (startTrimmed : IsTrimmed s) (start : s ≠ [])
    (endTrimmed : IsTrimmed t) (last : t ≠ []) (separator : Char) :
    IsTrimmed (s ++ separator :: t) :=
  startTrimmed.append start endTrimmed last [separator]

/-- **A text is what is left of it** with blanks around. -/
theorem exists_eq_append_trimChars (s : List Char) :
    ∃ before after, before.all isBlank = true ∧ after.all isBlank = true ∧
      s = before ++ (trimChars s ++ after) := by
  refine ⟨s.takeWhile isBlank, (s.dropWhile isBlank).rtakeWhile isBlank, ?_, ?_, ?_⟩
  · rw [List.all_eq_true]
    exact fun c mem => List.mem_takeWhile_imp mem
  · rw [List.all_eq_true]
    exact fun c mem => List.mem_rtakeWhile_imp mem
  · rw [trimChars_eq, List.rdropWhile_append_rtakeWhile, List.takeWhile_append_dropWhile]

end

/-! ## Texts put together -/

section

variable {before s after t : List Char} (trimmed : IsTrimmed s) (some : s ≠ [])

include trimmed some

/-- There are no blanks before a trimmed text where it starts with none. -/
theorem eq_nil_iff_head? (blank : before.all isBlank = true) :
    before = [] ↔ ∀ c ∈ (before ++ (s ++ after)).head?, isBlank c = false := by
  cases before with
  | nil =>
    rw [List.nil_append, List.head?_append_of_ne_nil s some]
    simpa using trimmed.1
  | cons c before =>
    obtain ⟨first, -⟩ := Bool.and_eq_true_iff.1 blank
    simp [first]

/-- There are no blanks behind a trimmed text where it ends with none. -/
theorem eq_nil_iff_getLast? (blank : after.all isBlank = true) :
    after = [] ↔ ∀ c ∈ (before ++ (s ++ after)).getLast?, isBlank c = false := by
  rcases List.eq_nil_or_concat after with rfl | ⟨rest, c, rfl⟩
  · rw [List.append_nil, List.getLast?_append_of_ne_nil _ some]
    simpa using trimmed.2
  · rw [List.concat_eq_append] at blank ⊢
    have last : isBlank c = true := List.all_eq_true.1 blank c (by simp)
    rw [← List.append_assoc, ← List.append_assoc, List.getLast?_concat]
    simp [last]

end

/-- **Texts that join:** where the second one is put behind the first there is no blank. -/
def Joins (s t : List Char) : Prop :=
  (∀ c ∈ s.getLast?, isBlank c = false) ∧ ∀ c ∈ t.head?, isBlank c = false

instance (s t : List Char) : Decidable (Joins s t) :=
  decidable_of_iff ((s.getLast?.any isBlank || t.head?.any isBlank) = false) <| by
    rw [Bool.or_eq_false_iff, Option.any_eq_false, Option.any_eq_false, Joins]
    simp

/-- **Trimming two texts at once** keeps the blanks where they meet. -/
theorem exists_trimChars_append {s t : List Char} (someS : trimChars s ≠ [])
    (someT : trimChars t ≠ []) :
    ∃ seam, seam.all isBlank = true ∧ (seam = [] ↔ Joins s t) ∧
      trimChars (s ++ t) = trimChars s ++ (seam ++ trimChars t) := by
  have trimmedS := isTrimmed_trimChars s
  have trimmedT := isTrimmed_trimChars t
  obtain ⟨beforeS, afterS, blankBeforeS, blankAfterS, wholeS⟩ := exists_eq_append_trimChars s
  obtain ⟨beforeT, afterT, blankBeforeT, blankAfterT, wholeT⟩ := exists_eq_append_trimChars t
  refine ⟨afterS ++ beforeT, ?_, ?_, ?_⟩
  · rw [List.all_append, blankAfterS, blankBeforeT]
    rfl
  · have atEnd : afterS = [] ↔ ∀ c ∈ s.getLast?, isBlank c = false := by
      rw [wholeS]
      exact eq_nil_iff_getLast? trimmedS someS blankAfterS
    have atStart : beforeT = [] ↔ ∀ c ∈ t.head?, isBlank c = false := by
      rw [wholeT]
      exact eq_nil_iff_head? trimmedT someT blankBeforeT
    rw [List.append_eq_nil_iff, atEnd, atStart, Joins]
  · have whole : s ++ t =
        beforeS ++ (trimChars s ++ (afterS ++ beforeT ++ trimChars t) ++ afterT) := by
      calc s ++ t = beforeS ++ (trimChars s ++ afterS) ++ (beforeT ++ (trimChars t ++ afterT)) := by
            rw [← wholeS, ← wholeT]
        _ = _ := by simp only [List.append_assoc]
    rw [whole]
    exact trimChars_append_blanks blankBeforeS blankAfterT
      (trimmedS.append someS trimmedT someT (afterS ++ beforeT))

end Text
end Gradebook
