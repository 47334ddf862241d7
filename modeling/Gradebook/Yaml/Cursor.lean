/-
# Positions in a YAML text

A cursor holds what is left of the text and how far it has come: the bytes that the characters
read have in UTF-8, the line, and the column within it, which counts characters. Besides carriage
return and line feed, which together are one line break, three more characters break lines.
-/

namespace Gradebook
namespace Yaml

def isBreak (c : Char) : Bool :=
  c = '\n' || c = '\r' || c = '\u0085' || c = '\u2028' || c = '\u2029'

def isSpaceOrTab (c : Char) : Bool := c = ' ' || c = '\t'

def isSpaceOrBreak (c : Char) : Bool := isSpaceOrTab c || isBreak c

/-- The characters of directive names, tag handles and anchors. -/
def isWordChar (c : Char) : Bool := c.isAlphanum || c = '_' || c = '-'

/-- Whether a text is at its end, or its head passes a test. -/
def endOr (test : Char → Bool) : List Char → Bool
  | [] => true
  | c :: _ => test c

/-- Whether a text is at its end or at a blank or line break. -/
def atGap (s : List Char) : Bool := endOr isSpaceOrBreak s

/-- Whether a text is at its end or at a line break. -/
def atLineEnd (s : List Char) : Bool := endOr isBreak s

/-- Whether the head of a text passes a test. -/
def headIs (test : Char → Bool) : List Char → Bool
  | [] => false
  | c :: _ => test c

/-- A line break at the head of a text: what it stands for and how many characters it has.
The two line separators stand for themselves, all others for a line feed. -/
def lineBreak? : List Char → Option (Char × Nat)
  | '\r' :: '\n' :: _ => some ('\n', 2)
  | c :: _ => if isBreak c then some (if '\u2028' ≤ c then c else '\n', 1) else none
  | [] => none

/-- A line break has a character at least. -/
theorem exists_lineBreak? {c : Char} (atBreak : isBreak c = true) (rest : List Char) :
    ∃ ch count, lineBreak? (c :: rest) = some (ch, count) ∧ 0 < count := by
  unfold lineBreak?
  split
  · exact ⟨_, _, rfl, by decide⟩
  · next _ _ text =>
    cases text
    rw [if_pos atBreak]
    exact ⟨_, _, rfl, by decide⟩
  · next text => cases text

/-- Whether a text starts with three dashes or points and a gap. -/
def atDocumentMark : List Char → Bool
  | '-' :: '-' :: '-' :: rest => atGap rest
  | '.' :: '.' :: '.' :: rest => atGap rest
  | _ => false

/-- The bytes of characters in UTF-8. -/
def byteCount (s : List Char) : Nat := s.foldl (fun count c => count + c.utf8Size) 0

/-- A position in a text. -/
structure Cursor where
  rest : List Char
  /-- The bytes before it. -/
  index : Nat
  line : Nat
  column : Nat

namespace Cursor

def ofText (text : List Char) : Cursor := ⟨text, 0, 0, 0⟩

/-- How many characters are left. -/
def left (c : Cursor) : Nat := c.rest.length

/-- Goes forward within a line. -/
def advance (c : Cursor) (count : Nat) : Cursor :=
  { c with
    rest := c.rest.drop count
    index := c.index + byteCount (c.rest.take count)
    column := c.column + count }

/-- Goes past the characters that pass a test. -/
def skipWhile (c : Cursor) (test : Char → Bool) : Cursor :=
  c.advance (c.rest.takeWhile test).length

/-- Goes past the rest of the line, but not its line break. -/
def skipLine (c : Cursor) : Cursor := c.skipWhile fun ch => !isBreak ch

/-- Goes past a comment, if there is one. -/
def skipComment (c : Cursor) : Cursor := if headIs (· = '#') c.rest then c.skipLine else c

/-- Goes past a byte order mark at the head of a line. -/
def skipMark (c : Cursor) : Cursor :=
  if c.column = 0 && headIs (· = '\ufeff') c.rest then c.advance 1 else c

/-- Goes past a line break, if there is one. -/
def skipBreak (c : Cursor) : Cursor :=
  match lineBreak? c.rest with
  | some (_, count) =>
    { c with
      rest := c.rest.drop count
      index := c.index + byteCount (c.rest.take count)
      line := c.line + 1
      column := 0 }
  | none => c

/-- The line break that is read here, if there is one. -/
def breakText (c : Cursor) : List Char :=
  match lineBreak? c.rest with
  | some (ch, _) => [ch]
  | none => []

/-! ### What is left -/

variable {c : Cursor}

@[simp] theorem left_advance (c : Cursor) (count : Nat) :
    (c.advance count).left = c.left - count :=
  List.length_drop

theorem left_advance_le (c : Cursor) (count : Nat) : (c.advance count).left ≤ c.left := by simp

theorem left_skipWhile_le (c : Cursor) (test : Char → Bool) : (c.skipWhile test).left ≤ c.left :=
  left_advance_le ..

theorem left_skipLine_le (c : Cursor) : c.skipLine.left ≤ c.left := left_skipWhile_le ..

theorem left_skipComment_le (c : Cursor) : c.skipComment.left ≤ c.left := by
  unfold skipComment
  split
  · exact left_skipLine_le c
  · exact Nat.le_refl _

theorem left_skipMark_le (c : Cursor) : c.skipMark.left ≤ c.left := by
  unfold skipMark
  split
  · exact left_advance_le c 1
  · exact Nat.le_refl _

theorem left_skipBreak_le (c : Cursor) : c.skipBreak.left ≤ c.left := by
  unfold skipBreak left
  split <;> simp

theorem left_of_rest_eq_cons {ch : Char} {rest : List Char} (text : c.rest = ch :: rest) :
    c.left = rest.length + 1 := by
  rw [left, text, List.length_cons]

theorem left_advance_lt {ch : Char} {rest : List Char} (text : c.rest = ch :: rest) {count : Nat}
    (pos : 0 < count) : (c.advance count).left < c.left := by
  rw [left_advance, left_of_rest_eq_cons text]
  omega

theorem headIs_of_rest_eq_cons {test : Char → Bool} {ch : Char} {rest : List Char}
    (text : c.rest = ch :: rest) (passes : test ch = true) : headIs test c.rest = true := by
  rwa [text]

theorem exists_rest_of_headIs {test : Char → Bool} (head : headIs test c.rest = true) :
    ∃ ch rest, c.rest = ch :: rest ∧ test ch = true := by
  cases text : c.rest with
  | nil =>
    rw [text] at head
    cases head
  | cons ch rest =>
    rw [text] at head
    exact ⟨ch, rest, rfl, head⟩

/-- **A line break that is there** is passed. -/
theorem left_skipBreak_lt (atBreak : headIs isBreak c.rest = true) :
    c.skipBreak.left < c.left := by
  obtain ⟨ch, rest, text, isBreak⟩ := exists_rest_of_headIs atBreak
  have some := left_of_rest_eq_cons text
  obtain ⟨_, count, found, pos⟩ := exists_lineBreak? isBreak rest
  rw [← text] at found
  simp only [skipBreak, left, found, List.length_drop] at some ⊢
  omega

/-- The rest of a line and the line break after it have a character at least. -/
theorem left_skipBreak_skipLine_lt {ch : Char} {rest : List Char} (text : c.rest = ch :: rest) :
    c.skipLine.skipBreak.left < c.left := by
  cases atBreak : isBreak ch with
  | true =>
    have line : c.skipLine = c.advance 0 := by
      simp [skipLine, skipWhile, text, atBreak]
    have unmoved : (c.advance 0).rest = c.rest := rfl
    rw [line]
    refine Nat.lt_of_lt_of_le (left_skipBreak_lt ?_) (left_advance_le ..)
    rw [unmoved, text]
    exact atBreak
  | false =>
    refine Nat.lt_of_le_of_lt (left_skipBreak_le _) (left_advance_lt text ?_)
    simp [text, atBreak]

end Cursor
end Yaml
end Gradebook
