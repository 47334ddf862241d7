/-
# Mark sheets are read back

`Table.read?` reads a table of fields: tabs separate the fields of a record, a line feed ends it,
and a field in quotes can hold any text, with each quote in it written twice. A mark sheet is such a
table, with a record of a name and a mark for each report (`MarkSheet.read?_text`), whatever
characters the names have; a mark has three decimal places. The records are sorted by name after the
reports were sorted by rank. Both sorts are stable, so records of one name are in the order of rank,
and there their marks do not rise.
-/

import Gradebook.MarkSheet
import Gradebook.Proofs.Decimal.Places
import Gradebook.Proofs.Grading.StableRanking

namespace Gradebook

/-! ## Reading tables -/

namespace Table

/-- Where a reader is in a field. -/
inductive Place where
  | start
  | bare
  | quoted
  /-- Behind a quote that ends the field, unless another quote follows. -/
  | closed
deriving DecidableEq

/-- Reads a table from within a field. What has been read of the field and of its record is
given. -/
def readFrom? (place : Place) (field : List Char) (record : List (List Char)) :
    List Char → Option (List (List (List Char)))
  | [] => if place = .start && record.isEmpty then some [] else none
  | c :: rest =>
    if place = .quoted then
      if c = '"' then readFrom? .closed field record rest
      else readFrom? .quoted (field ++ [c]) record rest
    else if c = '\t' then readFrom? .start [] (record ++ [field]) rest
    else if c = '\n' then (readFrom? .start [] [] rest).map ((record ++ [field]) :: ·)
    else if c = '"' then
      match place with
      | .start => readFrom? .quoted [] record rest
      | .closed => readFrom? .quoted (field ++ ['"']) record rest
      | _ => none
    else if c = '\r' || place = .closed then none
    else readFrom? .bare (field ++ [c]) record rest

/-- **The records of a table,** each a list of fields. -/
def read? (s : String) : Option (List (List String)) :=
  (readFrom? .start [] [] s.toList).map (·.map (·.map String.ofList))

end Table

namespace MarkSheet

open Table (Place readFrom? read?)

section

variable (record : List (List Char)) (s rest : List Char)

/-- Between quotes any text is read, each quote of it from two. -/
theorem readFrom?_doubled (field : List Char) :
    readFrom? .quoted field record (doubled s ++ '"' :: rest) =
      readFrom? .closed (field ++ s) record rest := by
  induction s generalizing field with
  | nil => simp [doubled, readFrom?]
  | cons c s ih =>
    by_cases quote : c = '"'
    · simp [doubled, readFrom?, quote, ih]
    · simp [doubled, readFrom?, quote, ih]

/-- A character that needs no quotes is read as it stands, behind others that do not. -/
theorem readFrom?_char {place : Place} (unquoted : place = .start ∨ place = .bare) {c : Char}
    (plain : needsQuotes [c] = false) (field : List Char) :
    readFrom? place field record (c :: rest) = readFrom? .bare (field ++ [c]) record rest := by
  simp only [needsQuotes, List.any_cons, List.any_nil, Bool.or_false, Bool.or_eq_false_iff,
    decide_eq_false_iff_not] at plain
  rcases unquoted with rfl | rfl <;> simp [readFrom?, plain]

theorem readFrom?_plain {place : Place} (unquoted : place = .start ∨ place = .bare) {c : Char}
    (plain : needsQuotes (c :: s) = false) (field : List Char) :
    readFrom? place field record (c :: s ++ rest) =
      readFrom? .bare (field ++ c :: s) record rest := by
  have first : needsQuotes [c] = false := by simp_all [needsQuotes]
  rw [List.cons_append, readFrom?_char record _ unquoted first]
  induction s generalizing c field with
  | nil => rfl
  | cons d s ih =>
    have second : needsQuotes [d] = false := by simp_all [needsQuotes]
    have plain : needsQuotes (d :: s) = false := by simp_all [needsQuotes]
    rw [List.cons_append, readFrom?_char record _ (.inr rfl) second, ih plain _ second]
    simp

/-- **A written field is read,** and then the field is not between quotes. -/
theorem exists_readFrom?_field : ∃ place ≠ Place.quoted,
    readFrom? .start [] record (field s ++ rest) = readFrom? place s record rest := by
  unfold field
  cases quotes : needsQuotes s with
  | true => exact ⟨.closed, by decide, by simp [readFrom?, readFrom?_doubled]⟩
  | false =>
    cases s with
    | nil => exact ⟨.start, by decide, rfl⟩
    | cons c s => exact ⟨.bare, by decide, readFrom?_plain record s rest (.inl rfl) quotes []⟩

/-- A tab ends a field. -/
theorem readFrom?_tab {place : Place} (outside : place ≠ .quoted) :
    readFrom? place s record ('\t' :: rest) = readFrom? .start [] (record ++ [s]) rest := by
  simp [readFrom?, outside]

/-- A line feed ends a record. -/
theorem readFrom?_lineFeed {place : Place} (outside : place ≠ .quoted) :
    readFrom? place s record ('\n' :: rest) =
      (readFrom? .start [] [] rest).map ((record ++ [s]) :: ·) := by
  simp [readFrom?, outside]

end

/-- **A line is read as a record** of its two fields. -/
theorem readFrom?_line (row : String × String) (rest : List Char) :
    readFrom? .start [] [] (line row ++ rest) =
      (readFrom? .start [] [] rest).map ([row.1.toList, row.2.toList] :: ·) := by
  have split : line row ++ rest =
      field row.1.toList ++ '\t' :: (field row.2.toList ++ '\n' :: rest) := by
    simp [line]
  obtain ⟨first, outside, name⟩ :=
    exists_readFrom?_field [] row.1.toList ('\t' :: (field row.2.toList ++ '\n' :: rest))
  obtain ⟨second, outside', mark⟩ :=
    exists_readFrom?_field [row.1.toList] row.2.toList ('\n' :: rest)
  rw [split, name, readFrom?_tab _ _ _ outside, List.nil_append, mark,
    readFrom?_lineFeed _ _ _ outside']
  rfl

theorem readFrom?_lines (rows : List (String × String)) :
    readFrom? .start [] [] (rows.flatMap line) =
      some (rows.map fun row => [row.1.toList, row.2.toList]) := by
  induction rows with
  | nil => rfl
  | cons row rows ih => rw [List.flatMap_cons, readFrom?_line, ih]; rfl

/-- A tab and a quote in a name are read as text. -/
example : read? "\"a\t\"\"b\"\t1\nc\t2\n" = some [["a\t\"b", "1"], ["c", "2"]] := by decide

/-! ## The order of records -/

/-- The reports of standings by name. -/
def listed (s : Standings) : List Report :=
  s.users.mergeSort fun a b => decide (a.student.sortName ≤ b.student.sortName)

theorem listed_le_trans (a b c : Report)
    (ab : decide (a.student.sortName ≤ b.student.sortName) = true)
    (bc : decide (b.student.sortName ≤ c.student.sortName) = true) :
    decide (a.student.sortName ≤ c.student.sortName) = true :=
  decide_eq_true (le_trans (of_decide_eq_true ab) (of_decide_eq_true bc))

theorem listed_le_total (a b : Report) :
    (decide (a.student.sortName ≤ b.student.sortName) ||
      decide (b.student.sortName ≤ a.student.sortName)) = true := by
  simpa using le_total a.student.sortName b.student.sortName

section

variable (s : Standings)

theorem pairwise_listed :
    (listed s).Pairwise fun a b => a.student.sortName ≤ b.student.sortName :=
  (List.pairwise_mergeSort listed_le_trans listed_le_total s.users).imp of_decide_eq_true

/-- Reports of one name are listed in the order of the standings. -/
theorem filter_listed (name : String) :
    ((listed s).filter fun r => r.student.sortName = name) =
      s.users.filter fun r => r.student.sortName = name := by
  refine filter_mergeSort_of_ties listed_le_trans listed_le_total (fun a b atA atB => ?_) s.users
  exact decide_eq_true ((of_decide_eq_true atA).trans (of_decide_eq_true atB).symm).le

theorem read?_lines : read? (text s) =
    some ((listed s).map fun r => [r.student.sortName, r.finalMark.fixed 3]) := by
  rw [read?, text, String.toList_ofList, readFrom?_lines]
  simp [rows, row, listed]

/-- **A mark sheet is read back.** -/
theorem read?_text :
    ∃ reports : List Report,
      read? (text s) =
        some (reports.map fun r => [r.student.sortName, r.finalMark.fixed 3]) ∧
      (∀ r ∈ reports, r.finalMark.isFinite = true →
        r.finalMark.Writes 3 (r.finalMark.fixed 3)) ∧
      reports.Perm s.users ∧
      reports.Pairwise (fun a b => a.student.sortName ≤ b.student.sortName) ∧
      (∀ name, (reports.filter fun r => r.student.sortName = name) =
        s.users.filter fun r => r.student.sortName = name) ∧
      ∀ ranked, s.users = rank ranked → reports.Pairwise fun a b =>
        a.student.sortName = b.student.sortName → b.finalMark.TotalLE a.finalMark := by
  refine ⟨listed s, read?_lines s, fun _ _ => Binary64.writes_fixed, List.mergeSort_perm _ _,
    pairwise_listed s, filter_listed s, fun ranked users => ?_⟩
  refine pairwise_of_pairwise_filter fun name => ?_
  rw [filter_listed, users]
  have falls := (pairwise_rank ranked).imp fun le => (Report.compareStanding_isLE_iff.1 le).1
  exact falls.sublist List.filter_sublist

end

end MarkSheet
end Gradebook
