/-
# Durations as text

A duration is written as a row of numerals, each with a unit behind it (`Duration.Written`). No unit
has a digit or a point in it and a numeral has nothing else, so a text is such a row in one way at
most, and the reader, which takes the longest number and the longest unit each time, finds it
(`Duration.components?_eq_some_iff`). The components are not negative, hence neither is any sum of
them, and the last binary64 number below the limit of `2 ^ 63` nanoseconds is a whole one far enough
below it that the rounding at the end does not reach it (`Duration.roundToInt_lt`).
-/

import Gradebook.Course.Document
import Gradebook.Proofs.Binary64.Unsigned
import Gradebook.Proofs.Decimal.Numerals

namespace Gradebook
namespace Duration

/-- **The units,** with the nanoseconds in each. -/
def units : List (String × Nat) :=
  [("ns", 1), ("us", 1000), ("\u00b5s", 1000), ("\u03bcs", 1000), ("ms", 1000000),
    ("s", 1000000000), ("m", 60000000000), ("h", 3600000000000), ("d", 86400000000000),
    ("w", 604800000000000)]

/-- **A row of numbers with units.** -/
inductive Written : List Char → List Component → Prop
  | nil : Written [] []
  | cons {number unit rest : List Char} {nanos : Nat} {components : List Component} :
    Decimal.IsNumeral number → (String.ofList unit, nanos) ∈ units → Written rest components →
    Written (number ++ unit ++ rest)
      (⟨Binary64.ofDecimal false (Decimal.ofNumeral number), nanos⟩ :: components)

/-! ## Numbers and units are told apart -/

theorem unitNanos?_eq_some_iff {unit : List Char} {nanos : Nat} :
    unitNanos? unit = some nanos ↔ (String.ofList unit, nanos) ∈ units := by
  unfold unitNanos?
  generalize String.ofList unit = name
  split <;> simp_all [units, eq_comm]

theorem isNumberChar_iff {c : Char} : isNumberChar c = true ↔ c.isDigit = true ∨ c = '.' := by
  simp [isNumberChar]

/-- A unit has a character at least, and none that belongs to a number. -/
theorem apart_of_mem_units {unit : List Char} {nanos : Nat}
    (known : (String.ofList unit, nanos) ∈ units) :
    unit ≠ [] ∧ ∀ c ∈ unit, isNumberChar c = false := by
  have all : units.all (fun u => u.1.toList ≠ [] && u.1.toList.all (!isNumberChar ·)) = true := by
    decide
  simpa using List.all_eq_true.1 all _ known

/-- A row goes on with a number, if at all. -/
theorem Written.starts {s : List Char} {components : List Component}
    (written : Written s components) : ∀ c ∈ s.head?, isNumberChar c = true := by
  cases written with
  | nil => exact nofun
  | cons numeral known written =>
    next number unit rest nanos components =>
    obtain ⟨c, mem, -⟩ := numeral.someDigit
    cases number with
    | nil => cases mem
    | cons first number =>
      intro c head
      obtain rfl : first = c := by simpa using head
      exact isNumberChar_iff.2 (numeral.chars first List.mem_cons_self)

/-- **A row that is written is read.** -/
theorem components?_of_written {s : List Char} {components : List Component}
    (written : Written s components) : components? s = some components := by
  induction written with
  | nil => rw [components?, if_pos rfl]
  | @cons number unit rest nanos components numeral known written ih =>
    obtain ⟨someUnit, allUnit⟩ := apart_of_mem_units known
    have someNumber : number ≠ [] := by
      obtain ⟨c, mem, -⟩ := numeral.someDigit
      exact List.ne_nil_of_mem mem
    have allNumber : ∀ c ∈ number, isNumberChar c = true :=
      fun c mem => isNumberChar_iff.2 (numeral.chars c mem)
    have unitEnds : ∀ c ∈ (unit ++ rest).head?, isNumberChar c = false := by
      obtain ⟨first, unit, rfl⟩ := List.exists_cons_of_ne_nil someUnit
      simpa using allUnit first List.mem_cons_self
    have restEnds : ∀ c ∈ rest.head?, (!isNumberChar c) = false :=
      fun c mem => by rw [written.starts c mem]; rfl
    have read : Decimal.read? number = some (Decimal.ofNumeral number) :=
      (Decimal.read?_eq_some_iff numeral.chars).2 ⟨numeral, rfl⟩
    have cutNumber := takeWhile_append_of_ends allNumber unitEnds
    have leftNumber := dropWhile_append_of_ends allNumber unitEnds
    have cutUnit := takeWhile_append_of_ends (p := fun c => !isNumberChar c)
      (fun c mem => by rw [allUnit c mem]; rfl) restEnds
    have leftUnit := dropWhile_append_of_ends (p := fun c => !isNumberChar c)
      (fun c mem => by rw [allUnit c mem]; rfl) restEnds
    rw [List.append_assoc, components?, if_neg (by simp [someNumber]),
      dif_neg (by rw [cutNumber]; exact someNumber)]
    simp only [cutNumber, leftNumber, cutUnit, leftUnit, read,
      unitNanos?_eq_some_iff.2 known, ih]
    rfl

/-- **What is read is a row** that is written. -/
theorem written_of_components? {s : List Char} {components : List Component}
    (read : components? s = some components) : Written s components := by
  fun_induction components? s generalizing components with
  | case1 =>
    cases read
    exact .nil
  | case2 => cases read
  | case3 s nonempty someNumber rest =>
    next ih =>
    simp only [Option.bind_eq_bind, Option.bind_eq_some_iff, Option.pure_def,
      Option.some.injEq] at read
    obtain ⟨amount, readNumber, nanos, known, others, readOthers, rfl⟩ := read
    have chars : ∀ c ∈ s.takeWhile isNumberChar, c.isDigit = true ∨ c = '.' :=
      fun c mem => isNumberChar_iff.1 (List.mem_takeWhile_imp mem)
    obtain ⟨numeral, rfl⟩ := (Decimal.read?_eq_some_iff chars).1 readNumber
    have written := Written.cons numeral (unitNanos?_eq_some_iff.1 known) (ih readOthers)
    rwa [List.append_assoc, List.takeWhile_append_dropWhile,
      List.takeWhile_append_dropWhile] at written

theorem components?_eq_some_iff {s : List Char} {components : List Component} :
    components? s = some components ↔ Written s components :=
  ⟨written_of_components?, components?_of_written⟩

/-! ## Totals -/

open Binary64 (unitsPerOne)

theorem nanos_of_mem_units {name : String} {nanos : Nat} (known : (name, nanos) ∈ units) :
    (Binary64.ofNat nanos).isFinite = true ∧ (Binary64.ofNat nanos).isZero = false := by
  have all : ∀ n ∈ units.map (·.2),
      (Binary64.ofNat n).isFinite = true ∧ (Binary64.ofNat n).isZero = false := by
    decide +kernel
  exact all nanos (List.mem_map_of_mem (f := (·.2)) known)

theorem Written.isUnsigned_nanos {s : List Char} {components : List Component}
    (written : Written s components) : ∀ c ∈ components, c.nanos.IsUnsigned := by
  induction written with
  | nil => exact nofun
  | cons numeral known written ih =>
    obtain ⟨finite, some⟩ := nanos_of_mem_units known
    exact List.forall_mem_cons.2
      ⟨(Binary64.isUnsigned_ofDecimal _).mul (Binary64.isUnsigned_ofNat _) finite some, ih⟩

/-- A sum of components is not negative, as far as it goes. -/
theorem isUnsigned_foldl {components : List Component} (start : Binary64)
    (unsigned : start.IsUnsigned) (all : ∀ c ∈ components, c.nanos.IsUnsigned) :
    (components.foldl (fun sum c => sum + c.nanos) start).IsUnsigned := by
  induction components generalizing start with
  | nil => exact unsigned
  | cons c components ih =>
    exact ih _ (unsigned.add (all c List.mem_cons_self))
      fun d mem => all d (List.mem_cons_of_mem _ mem)

theorem Written.isUnsigned_total {s : List Char} {components : List Component}
    (written : Written s components) : (total components).IsUnsigned :=
  isUnsigned_foldl _ Binary64.isUnsigned_zero written.isUnsigned_nanos

theorem isFinite_limit : limit.isFinite = true := by decide +kernel

theorem units_limit : limit.units = 2 ^ 63 * unitsPerOne := by decide +kernel

section

variable {x : Binary64} (unsigned : x.IsUnsigned) (finite : x.isFinite = true)

include unsigned finite

/-- **The limit** is exact. -/
theorem limit_le_iff : limit.le x = true ↔ 2 ^ 63 ≤ x.value := by
  have order := Binary64.signedUnits_le_iff isFinite_limit finite
  have signed : limit.signedUnits = (2 ^ 63 * unitsPerOne : Nat) := by
    rw [← units_limit]
    rfl
  rw [Binary64.le_iff, ← order, signed, unsigned.signedUnits_eq, unsigned.value_eq,
    le_div_iff₀ Binary64.cast_unitsPerOne_pos]
  constructor
  · rintro ⟨-, -, le⟩
    exact_mod_cast le
  · intro le
    exact ⟨by decide +kernel, unsigned.number, by exact_mod_cast le⟩

/-- **Below the limit** the rounding does not reach it: the last number there is is whole. -/
theorem roundToInt_lt (below : x.value < 2 ^ 63) : 0 ≤ x.roundToInt ∧ x.roundToInt < 2 ^ 63 := by
  have notAbove : ¬ limit.le x = true := by
    rw [limit_le_iff unsigned finite]
    exact not_le.2 below
  have smaller : x.magnitude ≤ limit.magnitude - 1 := by
    have numbers : limit.isNaN = false := by decide +kernel
    have key : x.numericKey = x.magnitude := by
      rw [Binary64.numericKey, unsigned.sign]
      rfl
    have keyLimit : limit.numericKey = limit.magnitude := rfl
    simp only [Binary64.le_iff, numbers, unsigned.number, true_and, key, keyLimit] at notAbove
    omega
  have last : Binary64.unitsOf (limit.magnitude - 1) = (2 ^ 63 - 1024) * unitsPerOne := by
    decide +kernel
  have units := Binary64.unitsOf_le_unitsOf (by decide +kernel) smaller
  have whole : x.nearestWhole ≤ 2 ^ 63 - 1024 := by
    calc x.nearestWhole ≤ Rounding.nearestUp ((2 ^ 63 - 1024) * unitsPerOne) unitsPerOne :=
          Rounding.nearestUp_mono (last ▸ units) _
      _ = 2 ^ 63 - 1024 := Rounding.nearestUp_mul _ Binary64.unitsPerOne_pos
  have rounded : x.roundToInt = x.nearestWhole := by
    rw [Binary64.roundToInt, unsigned.sign]
    rfl
  omega

end

/-! ## Reading -/

/-- **What a text means as a duration:** a row of components, one at least, whose total in binary64
arithmetic stays below `2 ^ 63` nanoseconds. Blanks at the ends are no part of it. -/
structure Means (value : String) (components : List Component) : Prop where
  written : Written (Text.trimChars value.toList) components
  nonempty : components ≠ []
  finite : (total components).isFinite = true
  below : (total components).value < 2 ^ 63

/-- **A text is read** as what it means, to the nearest nanosecond. -/
theorem read?_eq_some_iff {value : String} {d : Duration} :
    read? value = some d ↔
      ∃ components, Means value components ∧ d.nanos = ⌊(total components).value + 1 / 2⌋ := by
  unfold read?
  simp only [Option.bind_eq_bind, Option.bind_eq_some_iff, components?_eq_some_iff,
    Option.ite_none_left_eq_some, Bool.or_eq_true, Option.some.injEq, not_or]
  constructor
  · rintro ⟨components, written, ⟨⟨some, finite⟩, below⟩, rfl⟩
    have isFinite : (total components).isFinite = true := by simpa using finite
    have below := (limit_le_iff written.isUnsigned_total isFinite).not.1 below
    exact ⟨components, ⟨written, by simpa using some, isFinite, not_le.1 below⟩,
      written.isUnsigned_total.roundToInt_eq⟩
  · rintro ⟨components, means, nanos⟩
    have unsigned := means.written.isUnsigned_total
    have below := (limit_le_iff unsigned means.finite).not.2 (not_le.2 means.below)
    rw [← unsigned.roundToInt_eq] at nanos
    exact ⟨components, means.written, ⟨⟨by simpa using means.nonempty, by simp [means.finite]⟩,
      below⟩, by rw [← nanos]⟩

theorem read?_eq_none_iff {value : String} :
    read? value = none ↔ ¬ ∃ components, Means value components := by
  rw [Option.eq_none_iff_forall_ne_some]
  constructor
  · rintro none ⟨components, means⟩
    exact none ⟨⌊(total components).value + 1 / 2⌋⟩ (read?_eq_some_iff.2 ⟨components, means, rfl⟩)
  · intro meaningless d read
    obtain ⟨components, means, -⟩ := read?_eq_some_iff.1 read
    exact meaningless ⟨components, means⟩

/-- **Exactly the durations are read.** A text that means one gives its total to the nearest
nanosecond, which is a whole number from zero on and below `2 ^ 63`. Every other text is refused,
and the refusal names it as it was given. -/
theorem readDuration_exact (value : String) :
    (∀ d, Course.readDuration value = .ok d ↔
      ∃ components, Means value components ∧ d.nanos = ⌊(total components).value + 1 / 2⌋) ∧
    (∀ e, Course.readDuration value = .error e ↔
      e = .invalidDuration value ∧ ¬ ∃ components, Means value components) ∧
    ∀ d, Course.readDuration value = .ok d → 0 ≤ d.nanos ∧ d.nanos ≤ 2 ^ 63 - 1 := by
  have accepted (d : Duration) : Course.readDuration value = .ok d ↔ read? value = some d := by
    rw [Course.readDuration]
    cases read? value <;> simp
  refine ⟨fun d => ?_, fun e => ?_, fun d read => ?_⟩
  · rw [accepted, read?_eq_some_iff]
  · rw [← read?_eq_none_iff, Course.readDuration]
    cases read? value <;> simp [eq_comm]
  · obtain ⟨components, means, nanos⟩ := read?_eq_some_iff.1 ((accepted d).1 read)
    have unsigned := means.written.isUnsigned_total
    obtain ⟨nonneg, less⟩ := roundToInt_lt unsigned means.finite means.below
    rw [nanos, ← unsigned.roundToInt_eq]
    exact ⟨nonneg, Int.le_sub_one_of_lt less⟩

end Duration
end Gradebook
