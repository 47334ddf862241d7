/-
# Scanning gets through a text

Every token takes up characters of its own (`Scanner.ensures_token`): an indicator is one, and
what is read after an indicator never goes back. A plain scalar has none, but what starts one is
neither a blank nor an indicator that would end it there. So after as many tokens as there are
characters the text is at its end, and a larger bound on the tokens changes nothing
(`Scanner.run_eq_run`).
-/

import Gradebook.Yaml.Scan
import Mathlib.Order.Basic
import Mathlib.Order.Nat
import Mathlib.Tactic.SplitIfs

namespace Gradebook
namespace Yaml

/-- **All that a computation can give** passes a test. It need not give anything. -/
def Ensures {ε α : Type} (x : Except ε α) (test : α → Prop) : Prop := ∀ a, x = .ok a → test a

namespace Ensures

variable {ε α β : Type} {e : ε} {x : Except ε α} {f : α → Except ε β} {test : α → Prop}
  {test' : β → Prop}

theorem pure {a : α} (passes : test a) : Ensures (Pure.pure a : Except ε α) test := by
  rintro _ ⟨⟩
  exact passes

theorem throw : Ensures (throw e : Except ε α) test := nofun

theorem bind (first : Ensures x test) (rest : ∀ a, test a → Ensures (f a) test') :
    Ensures (x >>= f) test' := by
  cases x with
  | error e => exact nofun
  | ok a => exact rest a (first a rfl)

/-- What comes after only has to agree on what can be given. -/
theorem bind_congr {f' : α → Except ε β} (first : Ensures x test)
    (same : ∀ a, test a → f a = f' a) : x >>= f = x >>= f' := by
  cases x with
  | error e => rfl
  | ok a => exact same a (first a rfl)

theorem throw_bind : Ensures (MonadExcept.throw e >>= f) test' := nofun

theorem ite {c : Prop} [Decidable c] {y : Except ε α} (yes : c → Ensures x test)
    (no : ¬ c → Ensures y test) : Ensures (if c then x else y) test := by
  split
  · next given => exact yes given
  · next given => exact no given

/-- What is given first does not matter. -/
theorem any_bind (rest : ∀ a, Ensures (f a) test') : Ensures (x >>= f) test' :=
  have anything : Ensures x fun _ => True := fun _ _ => trivial
  anything.bind fun a _ => rest a

end Ensures

variable {c next : Cursor}

/-! ## Scalars -/

theorem ensures_quotedParts (single start : Bool) (c : Cursor) (reversed : List Char) :
    Ensures (quotedParts single start c reversed) fun read => read.2.left ≤ c.left := by
  fun_induction quotedParts single start c reversed with
  | case1 | case2 | case3 | case9 => exact .throw
  | case4 start c reversed _ ch rest _ _ gap after gone ih =>
    exact fun read given => (ih read given).trans (left_le_of_readGap gone)
  | case5 start c reversed _ rest _ _ _ _ ih =>
    exact fun read given => (ih read given).trans (c.left_advance_le 2)
  | case6 start c | case8 start c => exact .pure (c.left_advance_le 1)
  | case7 start c reversed _ ch rest _ _ _ _ ih | case12 start c reversed _ ch rest _ _ _ _ _ ih =>
    exact fun read given => (ih read given).trans (c.left_advance_le 1)
  | case10 start c reversed _ rest _ _ gap after gone _ _ _ ih =>
    intro read given
    exact (ih read given).trans <| (left_le_of_readGap gone).trans <|
      (Cursor.left_skipBreak_le _).trans (c.left_advance_le 1)
  | case11 start c reversed _ rest _ _ _ _ _ ih =>
    exact .any_bind fun ⟨escaped, count⟩ read given =>
      (ih escaped count read given).trans (c.left_advance_le _)

theorem ensures_plainWords (inFlow : Bool) (least : Nat) (c : Cursor) (text : List Char)
    (gap : Gap) :
    Ensures (plainWords inFlow least c text gap) fun scalar => scalar.cursor.left ≤ c.left := by
  fun_induction plainWords inFlow least c text gap with
  | case1 => exact .pure (le_refl _)
  | case2 c text gap _ ih =>
    refine .any_bind fun word => ?_
    have advanced := c.left_advance_le word.length
    dsimp only
    split
    · next atGap =>
      split
      · exact .throw
      · next gap' after gone =>
        have passed := (left_le_of_readGap gone).trans advanced
        split
        · exact .pure passed
        · exact fun scalar given => (ih word atGap gap' after gone scalar given).trans passed
    · exact .pure advanced

theorem ensures_readBlockLines (literal : Bool) (indent : Nat) (c : Cursor) (lines : BlockLines) :
    Ensures (readBlockLines literal indent c lines) fun read => read.2.left ≤ c.left := by
  fun_induction readBlockLines literal indent c lines with
  | case1 | case2 => exact .pure (le_refl _)
  | case3 => exact .throw
  | case4 c lines ch rest text _ _ _ _ after skipped ih =>
    intro read given
    exact (ih read given).trans <| (left_le_of_skipEmptyLines skipped).trans
      (Cursor.left_skipBreak_skipLine_lt text).le

/-! ## Tokens in the form of identifiers -/

theorem ensures_readTagChars (verbatim : Bool) (c : Cursor) :
    Ensures (readTagChars verbatim c) fun read => read.2.left ≤ c.left :=
  .any_bind fun _ => .pure (c.left_advance_le _)

section

variable {ch : Char} {rest : List Char} (text : c.rest = ch :: rest)

include text

theorem ensures_readAnchor : Ensures (readAnchor c) fun read => read.2.left < c.left := by
  unfold readAnchor
  dsimp only
  split
  · exact .throw
  · exact .pure (Cursor.left_advance_lt text (by omega))

theorem ensures_readTag (inFlow : Bool) :
    Ensures (readTag inFlow c) fun read => read.2.left < c.left := by
  have ended : ∀ tag : TagText × Cursor, tag.2.left < c.left →
      Ensures (if endsTag inFlow tag.2 = true then Except.ok tag else .error Fault.tagText)
        fun read => read.2.left < c.left := by
    intro tag forth
    split
    · exact .pure forth
    · exact .throw
  unfold readTag
  dsimp only
  split
  · have forth := Cursor.left_advance_lt text Nat.two_pos
    refine (ensures_readTagChars true _).bind fun read le => ?_
    split
    · split
      · exact .throw_bind
      · exact ended _ (((Cursor.left_advance_le ..).trans le).trans_lt forth)
    · exact .throw_bind
  · have forth := Cursor.left_advance_lt text (Nat.succ_pos _ : 0 < (handleAt c.rest).length)
    refine (ensures_readTagChars false _).bind fun read le => ?_
    split
    · split
      · exact ended _ (le.trans_lt forth)
      · exact .throw_bind
    · exact ended _ (le.trans_lt forth)

end

theorem ensures_readVersionNumber (c : Cursor) :
    Ensures (readVersionNumber c) fun read => read.2.left ≤ c.left := by
  unfold readVersionNumber
  dsimp only
  split
  · exact .throw
  · exact .pure (c.left_advance_le _)

theorem ensures_readVersion (c : Cursor) :
    Ensures (readVersion c) fun read => read.2.left ≤ c.left := by
  refine (ensures_readVersionNumber c).bind fun read le => ?_
  dsimp only
  split
  · exact .throw_bind
  · refine (ensures_readVersionNumber _).bind fun read' le' => .pure ?_
    exact le'.trans ((Cursor.left_advance_le ..).trans le)

theorem ensures_readTagDirective (c : Cursor) :
    Ensures (readTagDirective c) fun read => read.2.left ≤ c.left := by
  unfold readTagDirective
  dsimp only
  split
  · exact .throw_bind
  · split
    · exact .throw_bind
    · split
      · exact .throw_bind
      · refine (ensures_readTagChars true _).bind fun read le => ?_
        split
        · split
          · exact .throw_bind
          · exact .pure (le.trans ((Cursor.left_skipWhile_le ..).trans (c.left_advance_le _)))
        · exact .throw

theorem ensures_readDirective {ch : Char} {rest : List Char} (text : c.rest = ch :: rest) :
    Ensures (readDirective c) fun read => read.2.left < c.left := by
  have ended : ∀ read : Token × Cursor, read.2.left < c.left →
      Ensures (let after := (read.2.skipWhile isSpaceOrTab).skipComment
        if atLineEnd after.rest = true then Except.ok (read.1, after.skipBreak)
        else .error Fault.directive) fun read => read.2.left < c.left := by
    intro read forth
    dsimp only
    split
    · refine .pure (lt_of_le_of_lt ?_ forth)
      exact (Cursor.left_skipBreak_le _).trans <| (Cursor.left_skipComment_le _).trans <|
        Cursor.left_skipWhile_le ..
    · exact .throw
  unfold readDirective
  dsimp only
  have forth : ∀ {n}, ((c.advance (1 + n)).skipWhile isSpaceOrTab).left < c.left := fun {n} =>
    (Cursor.left_skipWhile_le ..).trans_lt (Cursor.left_advance_lt text (by omega))
  split
  · exact .throw_bind
  · split
    · exact (ensures_readVersion _).bind fun read le => ended read (le.trans_lt forth)
    · split
      · exact (ensures_readTagDirective _).bind fun read le => ended read (le.trans_lt forth)
      · exact .throw_bind

/-! ## Plain and block scalars -/

/-- A document mark starts with a dash or a point. -/
theorem eq_of_atDocumentMark {ch : Char} {rest : List Char}
    (mark : atDocumentMark (ch :: rest) = true) : ch = '-' ∨ ch = '.' := by
  unfold atDocumentMark at mark
  split at mark
  · next text => exact .inl (List.cons.inj text).1
  · next text => exact .inr (List.cons.inj text).1
  · cases mark

section

variable {ch : Char} {rest : List Char}

theorem isIndicator_of_isFlowPunctuation (flow : isFlowPunctuation ch = true) :
    Scanner.isIndicator ch = true := by
  simp only [isFlowPunctuation, Bool.or_eq_true, decide_eq_true_eq] at flow
  rcases flow with (((rfl | rfl) | rfl) | rfl) | rfl <;> decide

variable {s : Scanner} (starts : s.startsPlain ch rest = true)

include starts

/-- **What starts a plain scalar** does not end it, and is no number sign. -/
theorem Scanner.startsPlain_spec : isSpaceOrBreak ch = false ∧ ch ≠ '#' ∧
    (ch = ':' → atGap rest = false) ∧ (s.inFlow = true → isFlowPunctuation ch = false) := by
  simp only [startsPlain, Bool.or_eq_true, Bool.and_eq_true, Bool.not_eq_true',
    Bool.or_eq_false_iff, decide_eq_true_eq] at starts
  rcases starts with (⟨blank, ordinary⟩ | ⟨rfl, -⟩) | ⟨⟨outside, rfl | rfl⟩, word⟩
  · refine ⟨blank, ?_, ?_, fun _ => ?_⟩
    · rintro rfl
      exact absurd ordinary (by decide)
    · rintro rfl
      exact absurd ordinary (by decide)
    · by_contra flow
      rw [isIndicator_of_isFlowPunctuation (by simpa using flow)] at ordinary
      cases ordinary
  · exact ⟨by decide, by decide, nofun, fun _ => by decide⟩
  · exact ⟨by decide, by decide, nofun, fun _ => by decide⟩
  · exact ⟨by decide, by decide, fun _ => word, fun _ => by decide⟩

theorem ensures_plainWord : Ensures (plainWord s.inFlow (ch :: rest)) fun word => word ≠ [] := by
  obtain ⟨blank, -, colon, flow⟩ := Scanner.startsPlain_spec starts
  unfold plainWord
  rw [blank, if_neg Bool.false_ne_true]
  split
  · exact .throw
  · split
    · next ends =>
      rcases Bool.or_eq_true_iff.1 ends with gap | punctuation
      · obtain ⟨isColon, gap⟩ := Bool.and_eq_true_iff.1 gap
        rw [colon (of_decide_eq_true isColon)] at gap
        cases gap
      · obtain ⟨inside, punctuation⟩ := Bool.and_eq_true_iff.1 punctuation
        rw [flow inside] at punctuation
        cases punctuation
    · cases plainWord s.inFlow rest with
      | error fault => exact .throw
      | ok word => exact .pure (List.cons_ne_nil _ _)

theorem ensures_readPlain {least : Nat} (text : c.rest = ch :: rest)
    (ordinary : (c.column = 0 && atDocumentMark c.rest) = false) :
    Ensures (readPlain s.inFlow least c) fun scalar => scalar.cursor.left < c.left := by
  obtain ⟨-, mark, -⟩ := Scanner.startsPlain_spec starts
  have comment : headIs (· = '#') c.rest = false := by
    rw [text]
    exact decide_eq_false mark
  unfold readPlain plainWords
  rw [ordinary, comment, Bool.or_false, if_neg Bool.false_ne_true]
  rw [text]
  refine (ensures_plainWord starts).bind fun word some => ?_
  have forth : (c.advance word.length).left < c.left :=
    Cursor.left_advance_lt text (List.length_pos_iff.2 some)
  dsimp only
  split
  · split
    · exact .throw
    · next gone =>
      have passed := (left_le_of_readGap gone).trans_lt forth
      split
      · exact .pure passed
      · exact fun scalar given => (ensures_plainWords _ _ _ _ _ scalar given).trans_lt passed
  · exact .pure forth

end

theorem ensures_readBlock {literal : Bool} {outer : Int} {ch : Char} {rest : List Char}
    (text : c.rest = ch :: rest) :
    Ensures (readBlock literal outer c) fun read => read.2.left < c.left := by
  refine .any_bind fun ⟨header, count⟩ => ?_
  have forth : ((c.advance (1 + count)).skipWhile isSpaceOrTab).skipComment.left < c.left :=
    (Cursor.left_skipComment_le _).trans_lt <| (Cursor.left_skipWhile_le ..).trans_lt <|
      Cursor.left_advance_lt text (by omega)
  dsimp only
  split
  · exact .throw_bind
  · refine Ensures.bind (fun _ => left_le_of_skipEmptyLines) fun empty skipped => ?_
    refine (ensures_readBlockLines _ _ _ _).bind fun lines le => .pure ?_
    exact le.trans_lt (skipped.trans_lt ((Cursor.left_skipBreak_le _).trans_lt forth))

theorem ensures_readQuoted {single : Bool} {ch : Char} {rest : List Char}
    (text : c.rest = ch :: rest) :
    Ensures (readQuoted single c) fun read => read.2.left < c.left :=
  fun read given => (ensures_quotedParts _ _ _ _ read given).trans_lt
    (Cursor.left_advance_lt text Nat.one_pos)

/-! ## Tokens -/

namespace Scanner

variable (s : Scanner)

theorem cursor_insertAt (place : Nat) (token : Token) :
    (s.insertAt place token).cursor = s.cursor := rfl

theorem cursor_openBlock (column : Nat) (place : Option Nat) (token : Token) :
    (s.openBlock column place token).cursor = s.cursor := by
  unfold openBlock
  split
  · rfl
  · cases place <;> rfl

theorem cursor_closeBlocksIn (column : Int) (outer : List Int) :
    (closeBlocksIn column outer s).cursor = s.cursor := by
  induction outer generalizing s with
  | nil => rfl
  | cons first rest ih =>
    unfold closeBlocksIn
    split
    · rw [ih]
      rfl
    · rfl

theorem cursor_closeBlocks (column : Int) : (s.closeBlocks column).cursor = s.cursor := by
  unfold closeBlocks
  split
  · rfl
  · exact cursor_closeBlocksIn ..

theorem left_skipToToken_le : s.skipToToken.cursor.left ≤ s.cursor.left := by
  fun_induction skipToToken s with
  | case1 s marked blank c atBreak ih =>
    refine ih.trans ((Cursor.left_skipBreak_le _).trans ?_)
    exact (Cursor.left_skipComment_le _).trans <| (Cursor.left_skipWhile_le ..).trans <|
      Cursor.left_skipMark_le _
  | case2 s marked blank c =>
    exact (Cursor.left_skipComment_le _).trans <| (Cursor.left_skipWhile_le ..).trans <|
      Cursor.left_skipMark_le _

theorem ensures_dropStale : Ensures s.dropStale fun t => t.cursor = s.cursor :=
  .any_bind fun _ => .any_bind fun _ => .pure rfl

theorem ensures_dropCandidate : Ensures s.dropCandidate fun t => t.cursor = s.cursor := by
  unfold dropCandidate
  split
  · exact .throw
  · exact .pure rfl

theorem ensures_saveCandidate :
    Ensures s.saveCandidate fun t => t.cursor = s.cursor ∧ t.inFlow = s.inFlow := by
  unfold saveCandidate dropCandidate
  split
  · dsimp only
    split
    · exact .throw_bind
    · exact .pure ⟨rfl, rfl⟩
  · exact .pure ⟨rfl, rfl⟩

theorem ensures_leaveBlocks : Ensures s.leaveBlocks fun t => t.cursor = s.cursor :=
  (ensures_dropCandidate _).bind fun _ same => .pure (same.trans (cursor_closeBlocks ..))

theorem ensures_blockIndicator (token : Token) :
    Ensures (s.blockIndicator token) fun t => t.cursor = s.cursor := by
  unfold blockIndicator
  split
  · exact .pure rfl
  · split
    · exact .pure (cursor_openBlock ..)
    · exact .throw

section

variable {s} {ch : Char} {rest : List Char} (text : s.cursor.rest = ch :: rest)

include text

theorem left_past_lt {t : Scanner} (same : t.cursor = s.cursor) {count : Nat} (pos : 0 < count) :
    (t.cursor.advance count).left < s.cursor.left := by
  rw [same]
  exact Cursor.left_advance_lt text pos

theorem ensures_directive : Ensures s.directive fun t => t.cursor.left < s.cursor.left :=
  s.ensures_leaveBlocks.bind fun t same => by
    rw [← same] at text ⊢
    exact (ensures_readDirective text).bind fun read forth => .pure forth

theorem ensures_documentMark (token : Token) :
    Ensures (s.documentMark token) fun t => t.cursor.left < s.cursor.left :=
  s.ensures_leaveBlocks.bind fun _ same => .pure (left_past_lt text same (by decide))

theorem ensures_openFlow (token : Token) :
    Ensures (s.openFlow token) fun t => t.cursor.left < s.cursor.left :=
  s.ensures_saveCandidate.bind fun _ same => .pure (left_past_lt text same.1 Nat.one_pos)

theorem ensures_closeFlow (token : Token) :
    Ensures (s.closeFlow token) fun t => t.cursor.left < s.cursor.left := by
  refine s.ensures_dropCandidate.bind fun t same => ?_
  dsimp only
  split
  · exact .pure (left_past_lt text same Nat.one_pos)
  · exact .pure (left_past_lt text same Nat.one_pos)

theorem ensures_comma : Ensures s.comma fun t => t.cursor.left < s.cursor.left :=
  s.ensures_dropCandidate.bind fun _ same => .pure (left_past_lt text same Nat.one_pos)

theorem ensures_item : Ensures s.item fun t => t.cursor.left < s.cursor.left :=
  (s.ensures_blockIndicator _).bind fun t opened => t.ensures_dropCandidate.bind fun _ same =>
    .pure (left_past_lt text (same.trans opened) Nat.one_pos)

theorem ensures_key : Ensures s.key fun t => t.cursor.left < s.cursor.left :=
  (s.ensures_blockIndicator _).bind fun t opened => t.ensures_dropCandidate.bind fun _ same =>
    .pure (left_past_lt text (same.trans opened) Nat.one_pos)

theorem ensures_value : Ensures s.value fun t => t.cursor.left < s.cursor.left := by
  unfold value
  split
  · refine .pure (left_past_lt text ?_ Nat.one_pos)
    exact (cursor_openBlock ..).trans (cursor_insertAt ..)
  · exact (s.ensures_blockIndicator _).bind fun _ opened =>
      .pure (left_past_lt text opened Nat.one_pos)

theorem ensures_anchor (token : String → Token) :
    Ensures (s.anchor token) fun t => t.cursor.left < s.cursor.left := by
  refine s.ensures_saveCandidate.bind fun t ⟨same, _⟩ => ?_
  rw [← same] at text ⊢
  exact (ensures_readAnchor text).bind fun read forth => .pure forth

theorem ensures_tag : Ensures s.tag fun t => t.cursor.left < s.cursor.left := by
  refine s.ensures_saveCandidate.bind fun t ⟨same, _⟩ => ?_
  rw [← same] at text ⊢
  exact (ensures_readTag text _).bind fun read forth => .pure forth

theorem ensures_blockScalar (literal : Bool) :
    Ensures (s.blockScalar literal) fun t => t.cursor.left < s.cursor.left := by
  refine s.ensures_dropCandidate.bind fun t same => ?_
  rw [← same] at text ⊢
  exact (ensures_readBlock text).bind fun read forth => .pure forth

theorem ensures_quotedScalar (single : Bool) :
    Ensures (s.quotedScalar single) fun t => t.cursor.left < s.cursor.left := by
  refine s.ensures_saveCandidate.bind fun t ⟨same, _⟩ => ?_
  rw [← same] at text ⊢
  exact (ensures_readQuoted text).bind fun read forth => .pure forth

theorem ensures_plainScalar (starts : s.startsPlain ch rest = true)
    (ordinary : (s.cursor.column = 0 && atDocumentMark s.cursor.rest) = false) :
    Ensures s.plainScalar fun t => t.cursor.left < s.cursor.left := by
  refine s.ensures_saveCandidate.bind fun t ⟨same, inFlow⟩ => ?_
  rw [same, inFlow]
  exact (ensures_readPlain starts text ordinary).bind fun read forth => .pure forth

/-- **Every token takes up characters.** -/
theorem ensures_token : Ensures (s.token ch rest) fun t => t.cursor.left < s.cursor.left := by
  unfold token
  dsimp only
  refine .ite (fun _ => ensures_directive text) fun _ => ?_
  refine .ite (fun _ => ensures_documentMark text _) fun noStart => ?_
  refine .ite (fun _ => ensures_documentMark text _) fun noEnd => ?_
  refine .ite (fun _ => ensures_openFlow text _) fun _ => ?_
  refine .ite (fun _ => ensures_openFlow text _) fun _ => ?_
  refine .ite (fun _ => ensures_closeFlow text _) fun _ => ?_
  refine .ite (fun _ => ensures_closeFlow text _) fun _ => ?_
  refine .ite (fun _ => ensures_comma text) fun _ => ?_
  refine .ite (fun _ => ensures_item text) fun _ => ?_
  refine .ite (fun _ => ensures_key text) fun _ => ?_
  refine .ite (fun _ => ensures_value text) fun _ => ?_
  refine .ite (fun _ => ensures_anchor text _) fun _ => ?_
  refine .ite (fun _ => ensures_anchor text _) fun _ => ?_
  refine .ite (fun _ => ensures_tag text) fun _ => ?_
  refine .ite (fun _ => ensures_blockScalar text _) fun _ => ?_
  refine .ite (fun _ => ensures_blockScalar text _) fun _ => ?_
  refine .ite (fun _ => ensures_quotedScalar text _) fun _ => ?_
  refine .ite (fun _ => ensures_quotedScalar text _) fun _ => ?_
  refine .ite (fun starts => ensures_plainScalar text starts ?_) fun _ => .throw
  -- What starts with a document mark was taken for one above.
  rw [text, Bool.eq_false_iff]
  intro mark
  obtain ⟨first, mark⟩ := Bool.and_eq_true_iff.1 mark
  rcases eq_of_atDocumentMark mark with rfl | rfl
  · exact noStart (by rw [first, mark]; rfl)
  · exact noEnd (by rw [first, mark]; rfl)

end

/-! ## Runs -/

/-- **A larger bound on the tokens changes nothing** once it is more than the characters that are
left. -/
theorem run_eq_run {fuel fuel' : Nat} (enough : s.cursor.left < fuel)
    (enough' : s.cursor.left < fuel') : run fuel s = run fuel' s := by
  induction fuel generalizing s fuel' with
  | zero => exact absurd enough (Nat.not_lt_zero _)
  | succ fuel ih =>
    obtain ⟨fuel', rfl⟩ := Nat.exists_eq_add_one_of_ne_zero (Nat.ne_zero_of_lt enough')
    unfold run
    refine (ensures_dropStale _).bind_congr fun t same => ?_
    have le : (t.closeBlocks t.cursor.column).cursor.left ≤ s.cursor.left := by
      rw [cursor_closeBlocks, same]
      exact left_skipToToken_le s
    dsimp only
    split
    · rfl
    · next ch rest text =>
      exact (ensures_token text).bind_congr fun after forth => ih after (by omega) (by omega)

end Scanner

/-- **The tokens of a text** do not depend on the bound that they are read with. -/
theorem tokens_eq_run {text : String} {fuel : Nat} (enough : text.toList.length < fuel) :
    tokens text =
      if text.toList.all isAllowed then
        (Scanner.run fuel { cursor := .ofText text.toList }).map (·.tokens.toList)
      else .error .character := by
  have same := Scanner.run_eq_run { cursor := .ofText text.toList } enough
    (Nat.lt_add_of_pos_right Nat.two_pos : text.toList.length < text.toList.length + 2)
  unfold tokens
  dsimp only
  rw [← same]
  cases text.toList.all isAllowed with
  | false => rfl
  | true => cases Scanner.run fuel { cursor := .ofText text.toList } <;> rfl

end Yaml
end Gradebook
