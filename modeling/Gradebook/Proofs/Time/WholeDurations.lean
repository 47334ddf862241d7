/-
# Durations in whole numbers

Every unit is a whole number of nanoseconds, so a component with a whole number in front of its unit
is one too. The components are multiplied out and added up in binary64 arithmetic, which is exact on
whole numbers up to `2 ^ 53`: no component is more than the total and neither is a sum of some of
them, so nothing is rounded on the way to a total within that bound
(`Duration.isWhole_foldl_nanos`).

Two such rows put together are such a row again, with the components of both. Two texts put together
are read as the sum if they join, that is, if there is no blank where they meet. Blanks are cut off
at the ends of a text only, and those between two rows belong to no number and no unit.
-/

import Gradebook.Proofs.Binary64.Whole
import Gradebook.Proofs.Text.Splitting
import Gradebook.Proofs.Time.Durations

namespace Gradebook

/-- A decimal without decimal places is a whole number. -/
theorem Binary64.isWhole_ofDecimal {n : Nat} (few : n ≤ 2 ^ 53) :
    (ofDecimal false ⟨n, 0⟩).IsWhole n := by
  unfold ofDecimal
  split
  · next none =>
    have none : n = 0 := none
    subst none
    exact isWhole_zero
  · have short : Decimal.length n ≤ 16 :=
      (Nat.length_toDigits_le_iff (by decide) (by decide)).2 (few.trans_lt (by decide))
    dsimp only
    rw [if_neg (by omega), if_neg (by omega), Decimal.fraction, if_pos (Int.le_refl 0)]
    have whole := isWhole_ofNat few
    rw [ofNat] at whole
    simpa using whole

namespace Duration

/-- **A row of whole numbers with units,** each number as its value and each unit as its
nanoseconds. -/
inductive WrittenWhole : List Char → List (Nat × Nat) → Prop
  | nil : WrittenWhole [] []
  | cons {digits unit rest : List Char} {nanos : Nat} {counts : List (Nat × Nat)} :
    digits ≠ [] → (∀ c ∈ digits, c.isDigit = true) → (String.ofList unit, nanos) ∈ units →
    WrittenWhole rest counts →
    WrittenWhole (digits ++ unit ++ rest) ((Nat.ofDigitChars 10 digits 0, nanos) :: counts)

/-- **The exact total** of whole numbers of units, in nanoseconds. -/
def exactTotal (counts : List (Nat × Nat)) : Nat := Gradebook.total (counts.map fun c => c.1 * c.2)

@[simp] theorem exactTotal_cons (c : Nat × Nat) (counts : List (Nat × Nat)) :
    exactTotal (c :: counts) = c.1 * c.2 + exactTotal counts := rfl

/-- A whole number of a unit as a component. -/
def Component.ofCount (c : Nat × Nat) : Component := ⟨Binary64.ofDecimal false ⟨c.1, 0⟩, c.2⟩

/-- **A text in whole numbers:** a row of them with units, one at least, between blanks. -/
structure InWholes (value : String) (counts : List (Nat × Nat)) : Prop where
  written : WrittenWhole (Text.trimChars value.toList) counts
  nonempty : counts ≠ []

section

variable {s t : List Char} {counts others : List (Nat × Nat)}

/-- **A row of whole numbers** is a row of numbers. -/
theorem WrittenWhole.written (whole : WrittenWhole s counts) :
    Written s (counts.map Component.ofCount) := by
  induction whole with
  | nil => exact .nil
  | cons some all known whole ih =>
    have numeral := (Decimal.isNumeral_digits_iff all).2 some
    have written := Written.cons numeral known ih
    rw [Decimal.ofNumeral_digits all, Decimal.digitsValue_eq_ofDigitChars] at written
    exact written

theorem WrittenWhole.ne_nil (whole : WrittenWhole s counts) (nonempty : counts ≠ []) : s ≠ [] := by
  cases whole with
  | nil => exact absurd rfl nonempty
  | cons some all known whole => simp [some]

theorem WrittenWhole.append (whole : WrittenWhole s counts) (wholeT : WrittenWhole t others) :
    WrittenWhole (s ++ t) (counts ++ others) := by
  induction whole with
  | nil => exact wholeT
  | cons some all known whole ih =>
    rw [List.append_assoc]
    exact .cons some all known ih

theorem exactTotal_append : exactTotal (counts ++ others) = exactTotal counts + exactTotal others := by
  induction counts with
  | nil => exact (Nat.zero_add _).symm
  | cons c counts ih =>
    simp only [List.cons_append, exactTotal_cons]
    omega

/-! ## Totals -/

theorem nanos_bounds {name : String} {nanos : Nat} (known : (name, nanos) ∈ units) :
    1 ≤ nanos ∧ nanos ≤ 2 ^ 53 := by
  have all : ∀ n ∈ units.map (·.2), 1 ≤ n ∧ n ≤ 2 ^ 53 := by decide
  exact all nanos (List.mem_map_of_mem (f := (·.2)) known)

/-- **A component** within the bound is exact. -/
theorem isWhole_nanos {name : String} {count nanos : Nat} (known : (name, nanos) ∈ units)
    (few : count * nanos ≤ 2 ^ 53) :
    (Component.ofCount (count, nanos)).nanos.IsWhole (count * nanos) := by
  obtain ⟨some, small⟩ := nanos_bounds known
  have fewer : count ≤ 2 ^ 53 := (Nat.le_mul_of_pos_right count some).trans few
  exact (Binary64.isWhole_ofDecimal fewer).mul (Binary64.isWhole_ofNat small) few

/-- **A sum of components** within the bound is exact, from any whole number on. -/
theorem isWhole_foldl_nanos (whole : WrittenWhole s counts) {start : Binary64} {n : Nat}
    (startWhole : start.IsWhole n) (few : n + exactTotal counts ≤ 2 ^ 53) :
    ((counts.map Component.ofCount).foldl (fun sum c => sum + c.nanos) start).IsWhole
      (n + exactTotal counts) := by
  induction whole generalizing start n with
  | nil => exact startWhole
  | cons some all known whole ih =>
    rw [exactTotal_cons, ← Nat.add_assoc] at few ⊢
    dsimp only at few ⊢
    have part := isWhole_nanos known ((Nat.le_add_left _ n).trans (Nat.le_of_add_right_le few))
    exact ih (startWhole.add part (Nat.le_of_add_right_le few)) few

theorem isWhole_total (whole : WrittenWhole s counts) (few : exactTotal counts ≤ 2 ^ 53) :
    (total (counts.map Component.ofCount)).IsWhole (exactTotal counts) := by
  have sum := isWhole_foldl_nanos whole Binary64.isWhole_zero (by omega)
  rwa [Nat.zero_add] at sum

/-- **A text in whole numbers is read** as its exact total. -/
theorem InWholes.readDuration_eq {value : String} (whole : InWholes value counts)
    (few : exactTotal counts ≤ 2 ^ 53) :
    Course.readDuration value = .ok ⟨exactTotal counts⟩ := by
  have sum := isWhole_total whole.written few
  refine ((readDuration_exact value).1 _).2 ⟨_, ⟨whole.written.written, ?_, sum.isFinite, ?_⟩, ?_⟩
  · simpa using whole.nonempty
  · have less : exactTotal counts < 2 ^ 63 := few.trans_lt (by decide)
    rw [sum.value_eq]
    exact_mod_cast less
  · rw [← sum.isUnsigned.roundToInt_eq, sum.roundToInt_eq]

/-! ## Numbers without a point -/

/-- **A row without a point** is one of whole numbers. -/
theorem Written.exists_whole {components : List Component} (written : Written s components)
    (noPoint : '.' ∉ s) :
    ∃ counts, WrittenWhole s counts ∧ components = counts.map Component.ofCount := by
  induction written with
  | nil => exact ⟨[], .nil, rfl⟩
  | @cons number unit rest nanos components numeral known written ih =>
    simp only [List.mem_append, not_or] at noPoint
    obtain ⟨⟨noPointHere, -⟩, noPointLeft⟩ := noPoint
    obtain ⟨counts, whole, rfl⟩ := ih noPointLeft
    have all : ∀ c ∈ number, c.isDigit = true := by
      intro c mem
      rcases numeral.chars c mem with digit | rfl
      · exact digit
      · exact absurd mem noPointHere
    refine ⟨(Nat.ofDigitChars 10 number 0, nanos) :: counts,
      .cons ((Decimal.isNumeral_digits_iff all).1 numeral) all known whole, ?_⟩
    rw [Decimal.ofNumeral_digits all, Decimal.digitsValue_eq_ofDigitChars]
    rfl

/-- **What is read without a point** is in whole numbers. -/
theorem exists_inWholes {value : String} {d : Duration}
    (read : Course.readDuration value = .ok d) (noPoint : '.' ∉ value.toList) :
    ∃ counts, InWholes value counts := by
  obtain ⟨components, means, -⟩ := ((readDuration_exact value).1 d).1 read
  have noPointLeft : '.' ∉ Text.trimChars value.toList := by
    obtain ⟨before, after, -, -, around⟩ := Text.exists_eq_append_trimChars value.toList
    intro mem
    rw [around] at noPoint
    exact noPoint (List.mem_append_right _ (List.mem_append_left _ mem))
  obtain ⟨counts, whole, rfl⟩ := means.written.exists_whole noPointLeft
  exact ⟨counts, whole, by simpa using means.nonempty⟩

/-! ## Texts put together -/

theorem isBlank_of_isDigit {c : Char} (digit : c.isDigit = true) : Text.isBlank c = false := by
  obtain ⟨lower, upper⟩ := Bool.and_eq_true_iff.1 digit
  have lower : 48 ≤ c.toNat := of_decide_eq_true lower
  have upper : c.toNat ≤ 57 := of_decide_eq_true upper
  simp only [Text.isBlank, Text.inRanges, Text.blankRanges, List.any_cons, List.any_nil,
    Bool.or_false, Bool.or_eq_false_iff, Bool.and_eq_false_iff, decide_eq_false_iff_not]
  omega

/-- There are no blanks in a row of numbers. -/
theorem Written.isBlank_eq_false {components : List Component} (written : Written s components) :
    ∀ c ∈ s, Text.isBlank c = false := by
  induction written with
  | nil => exact nofun
  | cons numeral known written ih =>
    have all : units.all (fun u => u.1.toList.all (!Text.isBlank ·)) = true := by decide
    have unit := List.all_eq_true.1 all _ known
    rw [String.toList_ofList, List.all_eq_true] at unit
    intro c mem
    rcases List.mem_append.1 mem with mem | mem
    · rcases List.mem_append.1 mem with mem | mem
      · rcases numeral.chars c mem with digit | rfl
        · exact isBlank_of_isDigit digit
        · decide
      · simpa using unit c mem
    · exact ih c mem

section

variable {a b : String} (wholeA : InWholes a counts) (wholeB : InWholes b others)

include wholeA wholeB

/-- **Where two texts meet** the row of the one goes on with that of the other, or with blanks. -/
theorem InWholes.exists_seam : ∃ seam, seam.all Text.isBlank = true ∧
    (seam = [] ↔ Text.Joins a.toList b.toList) ∧
    Text.trimChars (a ++ b).toList =
      Text.trimChars a.toList ++ (seam ++ Text.trimChars b.toList) := by
  have someA := wholeA.written.ne_nil wholeA.nonempty
  have someB := wholeB.written.ne_nil wholeB.nonempty
  rw [String.toList_append]
  exact Text.exists_trimChars_append someA someB

theorem InWholes.append (joins : Text.Joins a.toList b.toList) :
    InWholes (a ++ b) (counts ++ others) := by
  obtain ⟨seam, -, ends, left⟩ := wholeA.exists_seam wholeB
  refine ⟨?_, by simp [wholeA.nonempty]⟩
  rw [left, ends.2 joins, List.nil_append]
  exact wholeA.written.append wholeB.written

theorem InWholes.readDuration_append_error (apart : ¬ Text.Joins a.toList b.toList) :
    Course.readDuration (a ++ b) = .error (.invalidDuration (a ++ b)) := by
  obtain ⟨seam, blank, ends, left⟩ := wholeA.exists_seam wholeB
  refine ((readDuration_exact (a ++ b)).2.1 _).2 ⟨rfl, ?_⟩
  rintro ⟨components, means⟩
  obtain ⟨c, mem⟩ := List.exists_mem_of_ne_nil seam (mt ends.1 apart)
  have written := means.written
  rw [left] at written
  have other := written.isBlank_eq_false c (by simp [mem])
  rw [List.all_eq_true.1 blank c mem] at other
  cases other

end

end

/-- **Whole numbers are exact.** What is read without a point is a row of whole numbers with units.
Such a text is read as the exact total of its nanoseconds as long as that is no more than `2 ^ 53`,
whatever the units and their order. Two such texts that join are read as the sum of the two totals,
and two with a blank where they meet are refused. -/
theorem readDuration_whole :
    (∀ value d, Course.readDuration value = .ok d → '.' ∉ value.toList →
      ∃ counts, InWholes value counts) ∧
    (∀ value counts, InWholes value counts → exactTotal counts ≤ 2 ^ 53 →
      Course.readDuration value = .ok ⟨exactTotal counts⟩) ∧
    ∀ a b counts others, InWholes a counts → InWholes b others →
      exactTotal counts + exactTotal others ≤ 2 ^ 53 →
      (Text.Joins a.toList b.toList →
        Course.readDuration (a ++ b) = .ok ⟨exactTotal counts + exactTotal others⟩) ∧
      (¬ Text.Joins a.toList b.toList →
        Course.readDuration (a ++ b) = .error (.invalidDuration (a ++ b))) := by
  refine ⟨fun value d => exists_inWholes, fun value counts => InWholes.readDuration_eq,
    fun a b counts others wholeA wholeB few => ⟨fun joins => ?_, fun apart => ?_⟩⟩
  · rw [← exactTotal_append] at few
    rw [(wholeA.append wholeB joins).readDuration_eq few, exactTotal_append, Nat.cast_add]
  · exact wholeA.readDuration_append_error wholeB apart

/-! ### Leading zeros, a unit that comes twice, and a blank where two texts meet -/

theorem writtenWhole_hour : WrittenWhole ['1', 'h'] [(1, 3600000000000)] :=
  show WrittenWhole (['1'] ++ ['h'] ++ []) [(Nat.ofDigitChars 10 ['1'] 0, 3600000000000)] from
    .cons (by decide) (List.all_eq_true.1 (by decide)) (by decide) .nil

theorem writtenWhole_halfHour : WrittenWhole ['0', '3', '0', 'm'] [(30, 60000000000)] :=
  show WrittenWhole (['0', '3', '0'] ++ ['m'] ++ [])
      [(Nat.ofDigitChars 10 ['0', '3', '0'] 0, 60000000000)] from
    .cons (by decide) (List.all_eq_true.1 (by decide)) (by decide) .nil

theorem readDuration_whole_hours :
    InWholes " 1h" [(1, 3600000000000)] ∧
      InWholes "030m1h " [(30, 60000000000), (1, 3600000000000)] ∧
      Text.Joins " 1h".toList "030m1h ".toList ∧
      Course.readDuration (" 1h" ++ "030m1h ") = .ok ⟨9000000000000⟩ := by
  have first : InWholes " 1h" [(1, 3600000000000)] := by
    have row : Text.trimChars " 1h".toList = ['1', 'h'] := by decide +kernel
    exact ⟨row ▸ writtenWhole_hour, by decide⟩
  have second : InWholes "030m1h " [(30, 60000000000), (1, 3600000000000)] := by
    have row : Text.trimChars "030m1h ".toList = ['0', '3', '0', 'm'] ++ ['1', 'h'] := by
      decide +kernel
    exact ⟨row ▸ writtenWhole_halfHour.append writtenWhole_hour, by decide⟩
  have joins : Text.Joins " 1h".toList "030m1h ".toList := by decide +kernel
  exact ⟨first, second, joins,
    (readDuration_whole.2.2 _ _ _ _ first second (by decide)).1 joins⟩

/-- **A blank where two texts meet** is not cut off, although it would be at the end of either. -/
theorem readDuration_apart :
    Course.readDuration "1h" = .ok ⟨3600000000000⟩ ∧
      Course.readDuration " 1h" = .ok ⟨3600000000000⟩ ∧
      3600000000000 + 3600000000000 ≤ 2 ^ 53 ∧
      Course.readDuration ("1h" ++ " 1h") = .error (.invalidDuration "1h 1h") := by
  decide +kernel

end Duration
end Gradebook
