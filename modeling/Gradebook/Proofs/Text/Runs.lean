/-
# Runs of characters

A run of characters of a class is cut off whole where what follows it starts with a character that
is not of the class, or with none.
-/

import Mathlib.Data.List.TakeDrop
import Mathlib.Data.List.TakeWhile

namespace Gradebook

section

variable {α : Type} {p : α → Bool} {run rest : List α} (all : ∀ c ∈ run, p c = true)
  (ends : ∀ c ∈ rest.head?, p c = false)

include all ends

theorem takeWhile_append_of_ends : (run ++ rest).takeWhile p = run := by
  rw [List.takeWhile_append_of_pos all]
  cases rest with
  | nil => exact List.append_nil run
  | cons c rest => rw [List.takeWhile_cons_of_neg (by simpa using ends), List.append_nil]

theorem dropWhile_append_of_ends : (run ++ rest).dropWhile p = rest := by
  rw [List.dropWhile_append_of_pos all]
  cases rest with
  | nil => rfl
  | cons c rest => exact List.dropWhile_cons_of_neg (by simpa using ends)

theorem span_append_of_ends : (run ++ rest).span p = (run, rest) := by
  rw [List.span_eq_takeWhile_dropWhile, takeWhile_append_of_ends all ends,
    dropWhile_append_of_ends all ends]

end

theorem decide_ne_of_notMem {α : Type} [DecidableEq α] {separator : α} {s : List α}
    (none : separator ∉ s) : ∀ c ∈ s, decide (c ≠ separator) = true := fun c mem => by
  simpa using fun same : c = separator => none (same ▸ mem)

/-- What is left after a run does not start with a character of the class. -/
theorem ends_dropWhile {α : Type} (p : α → Bool) (s : List α) :
    ∀ c ∈ (s.dropWhile p).head?, p c = false := by
  intro c mem
  have first := List.head?_dropWhile_not p s
  rwa [Option.mem_def.1 mem] at first

end Gradebook
