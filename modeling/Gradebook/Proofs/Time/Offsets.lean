/-
# Offsets as text

An offset is documented as `utc`, `Z`, or a sign with hours and perhaps minutes (`Offset.Form`), all
of them digits. Hours and minutes are read by the general reader of numbers, however, which lets
them have signs of their own, and only numbers that are too large are refused. So the texts that are
read are those of the same form with such numbers, as far as 32 bits hold them (`Offset.Accepted`).
Among them the documented ones are those without a second sign (`Offset.documented_iff`). They mean
what they say, because their seconds are far from the ends of 32 bits.
-/

import Gradebook.Course.Document
import Gradebook.Proofs.Text.Runs
import Mathlib.Tactic.Common

namespace Gradebook
namespace Offset

/-! ## The form of an offset -/

/-- **A row of digits** and the number that it writes. -/
structure IsDigits (s : List Char) (n : Int) : Prop where
  nonempty : s ≠ []
  digits : ∀ c ∈ s, c.isDigit = true
  value : n = Decimal.digitsValue 0 s

/-- **A number,** which may have a sign of its own. -/
inductive IsNumber : List Char → Int → Prop
  | plain {s : List Char} {n : Int} : IsDigits s n → IsNumber s n
  | plus {s : List Char} {n : Int} : IsDigits s n → IsNumber ('+' :: s) n
  | minus {s : List Char} {n : Int} : IsDigits s n → IsNumber ('-' :: s) (-n)

/-- A number that 32 bits hold. -/
def IsHeld (s : List Char) (n : Int) : Prop :=
  IsNumber s n ∧ -0x80000000 ≤ n ∧ n < 0x80000000

/-- **Hours and perhaps minutes,** in seconds; what a number is, is left open. -/
inductive Clock (number : List Char → Int → Prop) : List Char → Int → Prop
  | hours {s : List Char} {h : Int} : number s h → h ≤ 23 → Clock number s (h * 3600)
  | minutes {s t : List Char} {h m : Int} : number s h → number t m → h ≤ 23 → m ≤ 59 →
    Clock number (s ++ ':' :: t) (h * 3600 + m * 60)

/-- **The form of an offset,** and the seconds that it says. -/
inductive Form (number : List Char → Int → Prop) : List Char → Int → Prop
  | universal {s : List Char} : s.map Char.toLower = "utc".toList → Form number s 0
  | zulu : Form number ['Z'] 0
  | east {s : List Char} {n : Int} : Clock number s n → Form number ('+' :: s) n
  | west {s : List Char} {n : Int} : Clock number s n → Form number ('-' :: s) (-n)

/-- **A documented offset:** hours and minutes are digits. -/
abbrev Documented : List Char → Int → Prop := Form IsDigits

/-- **What is read as an offset:** hours and minutes may have signs, the seconds wrap around in 32
bits, and less than a day of them is left. -/
def Accepted (s : List Char) (seconds : Int) : Prop :=
  ∃ said, Form IsHeld s said ∧ seconds = said.bmod UInt32.size ∧ seconds.natAbs < 86400

/-! ## Numbers -/

theorem IsDigits.notMem {s : List Char} {n : Int} (digits : IsDigits s n) {c : Char}
    (other : c.isDigit = false) : c ∉ s :=
  fun mem => by simpa [other] using digits.digits c mem

theorem IsDigits.nonneg {s : List Char} {n : Int} (digits : IsDigits s n) : 0 ≤ n := by
  rw [digits.value]
  exact Int.natCast_nonneg _

theorem IsNumber.notMem {s : List Char} {n : Int} (number : IsNumber s n) {c : Char}
    (other : c.isDigit = false) (plus : c ≠ '+') (minus : c ≠ '-') : c ∉ s := by
  cases number with
  | plain digits => exact digits.notMem other
  | plus digits => simpa [plus] using digits.notMem other
  | minus digits => simpa [minus] using digits.notMem other

theorem isNumber_iff {s : List Char} {n : Int} :
    IsNumber s n ↔ ∃ size, IsDigits (Decimal.sign s).2 size ∧
      n = if (Decimal.sign s).1 then -size else size := by
  constructor
  · rintro (digits | digits | digits)
    · -- A row of digits does not start with a sign.
      have unsigned : Decimal.sign s = (false, s) := by
        unfold Decimal.sign
        split
        · exact absurd List.mem_cons_self (digits.notMem (by decide))
        · exact absurd List.mem_cons_self (digits.notMem (by decide))
        · rfl
      exact ⟨n, by rwa [unsigned], by rw [unsigned]; rfl⟩
    · exact ⟨n, digits, rfl⟩
    · exact ⟨_, digits, rfl⟩
  · rintro ⟨size, digits, rfl⟩
    unfold Decimal.sign at digits ⊢
    split at digits
    · exact .minus digits
    · exact .plus digits
    · exact .plain digits

/-- **The numbers that are read** are those that 32 bits hold. -/
theorem number?_eq_some_iff {s : List Char} {n : Int} : number? s = some n ↔ IsHeld s n := by
  rw [IsHeld, isNumber_iff]
  unfold number?
  obtain ⟨negative, digits⟩ := Decimal.sign s
  dsimp only
  have shape (n : Int) : (∃ size, IsDigits digits size ∧ n = if negative then -size else size) ↔
      (digits.isEmpty || !digits.all Char.isDigit) = false ∧
        (if negative then -(Decimal.digitsValue 0 digits : Int)
          else Decimal.digitsValue 0 digits) = n := by
    simp only [Bool.or_eq_false_iff, List.isEmpty_eq_false_iff, Bool.not_eq_false', List.all_eq_true]
    constructor
    · rintro ⟨size, ⟨nonempty, all, rfl⟩, rfl⟩
      exact ⟨⟨nonempty, all⟩, rfl⟩
    · rintro ⟨⟨nonempty, all⟩, rfl⟩
      exact ⟨_, ⟨nonempty, all, rfl⟩, rfl⟩
  rw [shape]
  generalize (if negative then -(Decimal.digitsValue 0 digits : Int)
    else Decimal.digitsValue 0 digits) = value
  simp only [Option.ite_none_left_eq_some, Option.ite_none_right_eq_some, Bool.and_eq_true,
    decide_eq_true_eq, Option.some.injEq, Bool.not_eq_true, and_assoc]
  refine and_congr_right fun _ => ?_
  constructor
  · rintro ⟨lower, upper, rfl⟩
    exact ⟨rfl, lower, upper⟩
  · rintro ⟨rfl, lower, upper⟩
    exact ⟨lower, upper, rfl⟩

/-! ## Hours and minutes -/

theorem splitColon_of_notMem {s : List Char} (noColon : ':' ∉ s) :
    splitColon s = (s, none) := by
  have nothing : s.dropWhile (· ≠ ':') = [] :=
    List.dropWhile_eq_nil_iff.2 (decide_ne_of_notMem noColon)
  rw [splitColon, nothing]

theorem splitColon_append {s : List Char} (noColon : ':' ∉ s) (t : List Char) :
    splitColon (s ++ ':' :: t) = (s, some t) := by
  have all := decide_ne_of_notMem noColon
  rw [splitColon, dropWhile_append_of_ends all (by simp), takeWhile_append_of_ends all (by simp)]

/-- The reader takes the hours for what precedes the first colon. -/
theorem clock_iff {s : List Char} {n : Int} :
    Clock IsHeld s n ↔ ∃ h m, IsHeld (splitColon s).1 h ∧
      IsHeld ((splitColon s).2.getD ['0']) m ∧ h ≤ 23 ∧ m ≤ 59 ∧ n = h * 3600 + m * 60 := by
  have zero : number? ['0'] = some 0 := by decide
  constructor
  · intro clock
    cases clock with
    | @hours _ h number bound =>
      rw [splitColon_of_notMem (number.1.notMem (by decide) (by decide) (by decide))]
      exact ⟨h, 0, number, number?_eq_some_iff.1 zero, bound, by decide, by omega⟩
    | @minutes s t h m numberH numberM boundH boundM =>
      rw [splitColon_append (numberH.1.notMem (by decide) (by decide) (by decide))]
      exact ⟨h, m, numberH, numberM, boundH, boundM, rfl⟩
  · rintro ⟨h, m, numberH, numberM, boundH, boundM, rfl⟩
    by_cases colon : ':' ∈ s
    · obtain ⟨before, after, rfl, noColon⟩ := List.eq_append_cons_of_mem colon
      rw [splitColon_append noColon] at numberH numberM
      exact .minutes numberH numberM boundH boundM
    · rw [splitColon_of_notMem colon] at numberH numberM
      have none : m = 0 := by
        rw [← number?_eq_some_iff, Option.getD_none, zero] at numberM
        exact (Option.some.inj numberM).symm
      subst none
      rw [Int.zero_mul, Int.add_zero]
      exact .hours numberH boundH

/-- **Hours and minutes** are read, with the sign in front of them. -/
theorem seconds?_eq_some_iff {sign o : Int} {s : List Char} :
    seconds? sign s = some o ↔
      ∃ n, Clock IsHeld s n ∧ o = (sign * n).bmod UInt32.size ∧ o.natAbs < 86400 := by
  simp only [clock_iff, ← number?_eq_some_iff]
  unfold seconds?
  obtain ⟨hours, minutes⟩ := splitColon s
  simp only [Option.bind_eq_bind, Option.bind_eq_some_iff, Option.ite_none_left_eq_some,
    Option.ite_none_right_eq_some, Option.some.injEq, Bool.or_eq_true, decide_eq_true_eq,
    not_or, Int.not_lt]
  constructor
  · rintro ⟨h, readH, m, readM, ⟨boundH, boundM⟩, small, rfl⟩
    exact ⟨_, ⟨h, m, readH, readM, boundH, boundM, rfl⟩, rfl, small⟩
  · rintro ⟨_, ⟨h, m, readH, readM, boundH, boundM, rfl⟩, rfl, small⟩
    exact ⟨h, readH, m, readM, ⟨boundH, boundM⟩, small, rfl⟩

/-! ## Offsets -/

/-- A text with a sign in front is not one of the names of universal time. -/
theorem not_universal {c : Char} (sign : c = '+' ∨ c = '-') (s : List Char) :
    ¬ ((c :: s).map Char.toLower = "utc".toList ∨ c :: s = ['Z']) := by
  have letters : "utc".toList = ['u', 't', 'c'] := rfl
  rw [letters, List.map_cons, List.cons_eq_cons, List.cons_eq_cons]
  rintro (⟨first, -⟩ | ⟨first, -⟩) <;> rcases sign with rfl | rfl <;> exact absurd first (by decide)

/-- **The offsets that are read.** -/
theorem read?_eq_some_iff {value : String} {o : Int} :
    read? value = some o ↔ Accepted (Text.trimChars value.toList) o := by
  unfold read?
  generalize Text.trimChars value.toList = s
  simp only [Bool.or_eq_true, decide_eq_true_eq]
  constructor
  · intro read
    split at read
    · next named =>
      obtain rfl := Option.some.inj read
      refine ⟨0, ?_, by decide, by decide⟩
      rcases named with universal | rfl
      · exact .universal universal
      · exact .zulu
    · split at read
      · obtain ⟨n, clock, rfl, small⟩ := seconds?_eq_some_iff.1 read
        exact ⟨n, .east clock, by rw [Int.one_mul], small⟩
      · obtain ⟨n, clock, rfl, small⟩ := seconds?_eq_some_iff.1 read
        exact ⟨-n, .west clock, by rw [Int.neg_one_mul], small⟩
      · cases read
  · rintro ⟨said, form, rfl, small⟩
    cases form with
    | universal named =>
      rw [if_pos (.inl named)]
      decide
    | zulu => decide
    | east clock =>
      rw [if_neg (not_universal (.inl rfl) _)]
      exact seconds?_eq_some_iff.2 ⟨_, clock, by rw [Int.one_mul], small⟩
    | west clock =>
      rw [if_neg (not_universal (.inr rfl) _)]
      exact seconds?_eq_some_iff.2 ⟨_, clock, by rw [Int.neg_one_mul], small⟩

/-! ## Documented offsets -/

theorem isDigits_iff {s : List Char} {n : Int} (bound : n ≤ 59) :
    IsDigits s n ↔ IsHeld s n ∧ '+' ∉ s ∧ '-' ∉ s := by
  constructor
  · intro digits
    have := digits.nonneg
    exact ⟨⟨.plain digits, by omega, by omega⟩, digits.notMem (by decide), digits.notMem (by decide)⟩
  · rintro ⟨⟨number, -, -⟩, noPlus, noMinus⟩
    cases number with
    | plain digits => exact digits
    | plus => exact absurd List.mem_cons_self noPlus
    | minus => exact absurd List.mem_cons_self noMinus

theorem clock_isDigits_iff {s : List Char} {n : Int} :
    Clock IsDigits s n ↔ Clock IsHeld s n ∧ '+' ∉ s ∧ '-' ∉ s := by
  constructor
  · intro clock
    cases clock with
    | hours number bound =>
      obtain ⟨held, noSign⟩ := (isDigits_iff (by omega)).1 number
      exact ⟨.hours held bound, noSign⟩
    | minutes numberH numberM boundH boundM =>
      obtain ⟨heldH, noSignH⟩ := (isDigits_iff (by omega)).1 numberH
      obtain ⟨heldM, noSignM⟩ := (isDigits_iff boundM).1 numberM
      exact ⟨.minutes heldH heldM boundH boundM, by simp [noSignH, noSignM],
        by simp [noSignH, noSignM]⟩
  · rintro ⟨clock, noPlus, noMinus⟩
    cases clock with
    | hours number bound => exact .hours ((isDigits_iff (by omega)).2 ⟨number, noPlus, noMinus⟩) bound
    | minutes numberH numberM boundH boundM =>
      simp only [List.mem_append, List.mem_cons, not_or] at noPlus noMinus
      exact .minutes ((isDigits_iff (by omega)).2 ⟨numberH, noPlus.1, noMinus.1⟩)
        ((isDigits_iff boundM).2 ⟨numberM, noPlus.2.2, noMinus.2.2⟩) boundH boundM

/-- Hours and minutes in digits are less than a day. -/
theorem Clock.bounds {s : List Char} {n : Int} (clock : Clock IsDigits s n) :
    0 ≤ n ∧ n < 86400 := by
  cases clock with
  | hours number bound =>
    have := number.nonneg
    omega
  | minutes numberH numberM boundH boundM =>
    have := numberH.nonneg
    have := numberM.nonneg
    omega

/-- Seconds of less than a day are held in 32 bits. -/
theorem bmod_of_natAbs_lt {n : Int} (small : n.natAbs < 86400) : n.bmod UInt32.size = n := by
  rw [UInt32.size]
  exact Int.bmod_eq_of_le (by omega) (by omega)

theorem Documented.natAbs_lt {s : List Char} {o : Int} (documented : Documented s o) :
    o.natAbs < 86400 := by
  cases documented with
  | universal => decide
  | zulu => decide
  | east clock =>
    have := clock.bounds
    omega
  | west clock =>
    have := clock.bounds
    omega

/-- **The documented offsets** are those that are read and have no second sign. -/
theorem documented_iff {s : List Char} {o : Int} :
    Documented s o ↔ Accepted s o ∧ '+' ∉ s.tail ∧ '-' ∉ s.tail := by
  constructor
  · intro documented
    have small := documented.natAbs_lt
    have own := (bmod_of_natAbs_lt small).symm
    cases documented with
    | universal named =>
      have noSign {c : Char} (other : c.toLower ∉ "utc".toList) : c ∉ s.tail := fun mem =>
        other (named ▸ List.mem_map_of_mem (List.mem_of_mem_tail mem))
      exact ⟨⟨0, .universal named, own, small⟩, noSign (by decide), noSign (by decide)⟩
    | zulu => exact ⟨⟨0, .zulu, own, small⟩, by decide, by decide⟩
    | east clock =>
      obtain ⟨held, noSign⟩ := clock_isDigits_iff.1 clock
      exact ⟨⟨_, .east held, own, small⟩, noSign⟩
    | west clock =>
      obtain ⟨held, noSign⟩ := clock_isDigits_iff.1 clock
      exact ⟨⟨_, .west held, own, small⟩, noSign⟩
  · rintro ⟨⟨said, form, rfl, -⟩, noSign⟩
    have documented : Documented s said := by
      cases form with
      | universal named => exact .universal named
      | zulu => exact .zulu
      | east clock => exact .east (clock_isDigits_iff.2 ⟨clock, noSign⟩)
      | west clock => exact .west (clock_isDigits_iff.2 ⟨clock, noSign⟩)
    rwa [bmod_of_natAbs_lt documented.natAbs_lt]

theorem Accepted.natAbs_lt {s : List Char} {o : Int} (accepted : Accepted s o) :
    o.natAbs < 86400 := by
  obtain ⟨-, -, -, small⟩ := accepted
  exact small

theorem readOffset_eq_ok_iff {value : String} {o : Int} :
    Course.readOffset value = .ok o ↔ Accepted (Text.trimChars value.toList) o := by
  rw [← read?_eq_some_iff, Course.readOffset]
  cases read? value <;> simp

/-- **The documented offsets mean what they say,** and nothing else is read but texts of their form
whose hours or minutes have a sign of their own. What is read is less than a day either way. Every
other text is refused, and the refusal names it as it was given. -/
theorem readOffset_exact (value : String) :
    (∀ o, Course.readOffset value = .ok o ↔ Accepted (Text.trimChars value.toList) o) ∧
    (∀ o, Documented (Text.trimChars value.toList) o ↔ Course.readOffset value = .ok o ∧
      '+' ∉ (Text.trimChars value.toList).tail ∧ '-' ∉ (Text.trimChars value.toList).tail) ∧
    (∀ o, Course.readOffset value = .ok o → -86400 < o ∧ o < 86400) ∧
    ∀ e, Course.readOffset value = .error e ↔
      e = .invalidTimezone value ∧ ∀ o, ¬ Accepted (Text.trimChars value.toList) o := by
  refine ⟨fun o => readOffset_eq_ok_iff, fun o => ?_, fun o read => ?_, fun e => ?_⟩
  · rw [readOffset_eq_ok_iff]
    exact documented_iff
  · have small := (readOffset_eq_ok_iff.1 read).natAbs_lt
    omega
  · simp only [← readOffset_eq_ok_iff]
    rw [Course.readOffset]
    cases read? value with
    | none => simp [eq_comm]
    | some o => simp

/-- A second sign turns the first one around. -/
theorem readOffset_twoSigns :
    Course.readOffset "+-5" = .ok (-18000) ∧ ¬ ∃ o, Documented (Text.trimChars "+-5".toList) o := by
  refine ⟨by decide, ?_⟩
  rintro ⟨o, documented⟩
  exact absurd (documented_iff.1 documented).2.2 (by decide)

end Offset
end Gradebook
