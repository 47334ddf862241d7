/-
# Composing gets through the tokens

A node takes a token before it looks for nodes within it, except for a sequence without an
indentation of its own, whose items start with a dash each. So calls are nested no deeper than
twice the number of tokens. Two computations *agree* on up to `n` tokens if they give the same
wherever no more than `n` are left, and put none back (`Compose.AgreeUpTo`). Every call agrees with
one that has more fuel, if the fuel is enough for the tokens (`Compose.Settled`), and so does a
document (`Compose.document_run_eq`).
-/

import Gradebook.Yaml.Node
import Gradebook.Proofs.Yaml.Scanning

namespace Gradebook
namespace Yaml

/-- How many tokens are left. -/
def Composer.left (c : Composer) : Nat := c.tokens.length

namespace Compose

/-! ## Agreement -/

section

variable {α β : Type} {n : Nat} {x y : Compose α} {f g : α → Compose β}

/-- **Two computations agree** on up to `n` tokens: they give the same, and put no token back. -/
def AgreeUpTo (n : Nat) (x y : Compose α) : Prop :=
  ∀ c : Composer, c.left ≤ n →
    x.run c = y.run c ∧ Ensures (x.run c) fun given => given.2.left ≤ c.left

namespace AgreeUpTo

theorem pure (a : α) : AgreeUpTo n (Pure.pure a) (Pure.pure a) :=
  fun _ _ => ⟨rfl, .pure (le_refl _)⟩

theorem throw (fault : Fault) :
    AgreeUpTo n (MonadExcept.throw fault : Compose α) (MonadExcept.throw fault) :=
  fun _ _ => ⟨rfl, nofun⟩

theorem throw_bind (fault : Fault) :
    AgreeUpTo n ((MonadExcept.throw fault : Compose α) >>= f) (MonadExcept.throw fault >>= g) :=
  fun _ _ => ⟨rfl, nofun⟩

theorem bind (first : AgreeUpTo n x y) (rest : ∀ a, AgreeUpTo n (f a) (g a)) :
    AgreeUpTo n (x >>= f) (y >>= g) := by
  intro c few
  obtain ⟨same, takes⟩ := first c few
  rw [StateT.run_bind, StateT.run_bind, ← same]
  refine ⟨takes.bind_congr fun given le => (rest given.1 given.2 (le.trans few)).1, ?_⟩
  exact takes.bind fun given le last made =>
    ((rest given.1 given.2 (le.trans few)).2 last made).trans le

theorem ite {c : Prop} [Decidable c] {x' y' : Compose α} (yes : c → AgreeUpTo n x y)
    (no : ¬ c → AgreeUpTo n x' y') : AgreeUpTo n (if c then x else x') (if c then y else y') := by
  split
  · next given => exact yes given
  · next given => exact no given

/-- A token that is taken is one less. -/
theorem next_bind {f g : Unit → Compose β} (rest : AgreeUpTo (n - 1) (f ()) (g ())) :
    AgreeUpTo n (next >>= f) (next >>= g) := by
  intro c few
  have tail : Composer.left { c with tokens := c.tokens.tail } = c.left - 1 := List.length_tail
  obtain ⟨same, takes⟩ := rest { c with tokens := c.tokens.tail } (by omega)
  exact ⟨same, fun given made => (takes given made).trans (by omega)⟩

/-- A token that is there is one of those that are left. -/
theorem peek_bind {f g : Option Token → Compose β}
    (rest : ∀ token, (token.isSome = true → 0 < n) → AgreeUpTo n (f token) (g token)) :
    AgreeUpTo n (peek >>= f) (peek >>= g) := by
  intro c few
  refine rest c.tokens.head? (fun some => ?_) c few
  have : 0 < c.left := List.length_pos_iff.2 (List.isSome_head?.1 some)
  omega

/-- What takes no tokens agrees with itself. -/
theorem of_tokens_eq (same : ∀ c, Ensures (x.run c) fun given => given.2.tokens = c.tokens) :
    AgreeUpTo n x x :=
  fun c _ => ⟨rfl, fun given made => (congrArg List.length (same c given made)).le⟩

end AgreeUpTo

end

variable {n : Nat}

theorem agree_event : AgreeUpTo n event event := .of_tokens_eq fun _ => .pure rfl

theorem agree_get : AgreeUpTo n (get : Compose Composer) get := .of_tokens_eq fun _ => .pure rfl

theorem agree_missing : AgreeUpTo n missing missing := agree_event.bind fun _ => .pure _

theorem agree_define (anchor : Option String) (serial : Nat) :
    AgreeUpTo n (define anchor serial) (define anchor serial) := by
  cases anchor with
  | none => exact .pure _
  | some name => exact .of_tokens_eq fun _ => .pure rfl

theorem agree_keep (anchor : Option String) (serial : Nat) (node : Node) :
    AgreeUpTo n (keep anchor serial node) (keep anchor serial node) := by
  cases anchor with
  | none => exact .pure _
  | some name => exact .of_tokens_eq fun _ => .pure rfl

theorem agree_fullTag (text : Option TagText) : AgreeUpTo n (fullTag text) (fullTag text) := by
  unfold fullTag
  split
  · exact .pure _
  · refine .ite (fun _ => .pure _) fun _ => agree_get.bind fun c => ?_
    split
    · exact .pure _
    · exact .throw _

theorem AgreeUpTo.mono {α : Type} {m : Nat} {x y : Compose α} (agree : AgreeUpTo n x y)
    (le : m ≤ n) : AgreeUpTo m x y :=
  fun c few => agree c (few.trans le)

theorem agree_properties : AgreeUpTo n properties properties := by
  unfold properties
  refine .peek_bind fun token _ => ?_
  split
  · refine .next_bind (.peek_bind fun token _ => ?_)
    split
    · exact .next_bind (.pure _)
    · exact .pure _
  · refine .next_bind (.peek_bind fun token _ => ?_)
    split
    · exact .next_bind (.pure _)
    · exact .pure _
  · exact .pure _

/-- A comma between items is a token that was left. -/
theorem AgreeUpTo.separator_bind {β : Type} {first : Bool} {f g : Unit → Compose β}
    (rest : ∀ m, m + (!first).toNat ≤ n → AgreeUpTo m (f ()) (g ())) :
    AgreeUpTo n (separator first >>= f) (separator first >>= g) := by
  cases first with
  | true => exact rest n (le_refl _)
  | false =>
    show AgreeUpTo n ((peek >>= _) >>= f) ((peek >>= _) >>= g)
    rw [bind_assoc, bind_assoc]
    refine .peek_bind fun token left => ?_
    split
    · next comma =>
      have some := left (by rw [comma]; rfl)
      exact .next_bind (rest _ (by rw [Bool.not_false, Bool.toNat_true]; omega))
    · exact .throw_bind _

/-! ## Nodes -/

/-- **More fuel changes nothing** where the fuel is enough for the tokens that are left. -/
structure Settled (fuel : Nat) : Prop where
  node {n : Nat} (block indentless : Bool) (enough : 2 * n + 2 + indentless.toNat ≤ fuel) :
    AgreeUpTo n (node block indentless fuel) (node block indentless (fuel + 1))
  nodeBefore {n : Nat} (block indentless : Bool) (ends : List Token)
    (enough : 2 * n + 3 + indentless.toNat ≤ fuel) :
    AgreeUpTo n (nodeBefore block indentless ends fuel)
      (nodeBefore block indentless ends (fuel + 1))
  blockItems {n : Nat} (enough : 2 * n + 2 ≤ fuel) :
    AgreeUpTo n (blockItems fuel) (blockItems (fuel + 1))
  looseItems {n : Nat} (enough : 2 * n + 2 ≤ fuel) :
    AgreeUpTo n (looseItems fuel) (looseItems (fuel + 1))
  blockPairs {n : Nat} (enough : 2 * n + 3 ≤ fuel) :
    AgreeUpTo n (blockPairs fuel) (blockPairs (fuel + 1))
  valueAfterColon {n : Nat} (block : Bool) (ends : List Token)
    (enough : 2 * n + 2 + block.toNat ≤ fuel) :
    AgreeUpTo n (valueAfterColon block ends fuel) (valueAfterColon block ends (fuel + 1))
  flowItems {n : Nat} (first : Bool) (enough : 2 * n + 1 + 2 * first.toNat ≤ fuel) :
    AgreeUpTo n (flowItems first fuel) (flowItems first (fuel + 1))
  flowPair {n : Nat} (enough : 2 * n + 3 ≤ fuel) :
    AgreeUpTo n (flowPair fuel) (flowPair (fuel + 1))
  flowPairs {n : Nat} (first : Bool) (enough : 2 * n + 1 + 2 * first.toNat ≤ fuel) :
    AgreeUpTo n (flowPairs first fuel) (flowPairs first (fuel + 1))

namespace Settled

variable {fuel : Nat} (settled : Settled fuel)

include settled

theorem nodeBefore_succ (block indentless : Bool) (ends : List Token)
    (enough : 2 * n + 3 + indentless.toNat ≤ fuel + 1) :
    AgreeUpTo n (Compose.nodeBefore block indentless ends (fuel + 1))
      (Compose.nodeBefore block indentless ends (fuel + 2)) := by
  unfold Compose.nodeBefore
  refine .peek_bind fun token _ => ?_
  exact .ite (fun _ => settled.node block indentless (by omega)) fun _ => agree_missing

theorem blockItems_succ (enough : 2 * n + 2 ≤ fuel + 1) :
    AgreeUpTo n (Compose.blockItems (fuel + 1)) (Compose.blockItems (fuel + 2)) := by
  unfold Compose.blockItems
  refine .peek_bind fun token left => ?_
  split
  · have some := left rfl
    refine .next_bind <| (settled.nodeBefore true false _ ?_).bind fun first => ?_
    · simp only [Bool.toNat_false]
      omega
    · exact (settled.blockItems (by omega)).bind fun rest => .pure _
  · exact .next_bind (.pure _)
  · exact .throw _

theorem looseItems_succ (enough : 2 * n + 2 ≤ fuel + 1) :
    AgreeUpTo n (Compose.looseItems (fuel + 1)) (Compose.looseItems (fuel + 2)) := by
  unfold Compose.looseItems
  refine .peek_bind fun token left => ?_
  split
  · have some := left rfl
    refine .next_bind <| (settled.nodeBefore true false _ ?_).bind fun first => ?_
    · simp only [Bool.toNat_false]
      omega
    · exact (settled.looseItems (by omega)).bind fun rest => .pure _
  · exact .pure _

theorem blockPairs_succ (enough : 2 * n + 3 ≤ fuel + 1) :
    AgreeUpTo n (Compose.blockPairs (fuel + 1)) (Compose.blockPairs (fuel + 2)) := by
  unfold Compose.blockPairs
  refine .peek_bind fun token left => ?_
  split
  · have some := left rfl
    refine .next_bind <| (settled.nodeBefore true true _ ?_).bind fun key => ?_
    · simp only [Bool.toNat_true]
      omega
    refine (settled.valueAfterColon true _ ?_).bind fun value => ?_
    · simp only [Bool.toNat_true]
      omega
    exact (settled.blockPairs (by omega)).bind fun rest => .pure _
  · exact .next_bind (.pure _)
  · exact .throw _

theorem valueAfterColon_succ (block : Bool) (ends : List Token)
    (enough : 2 * n + 2 + block.toNat ≤ fuel + 1) :
    AgreeUpTo n (Compose.valueAfterColon block ends (fuel + 1))
      (Compose.valueAfterColon block ends (fuel + 2)) := by
  unfold Compose.valueAfterColon
  refine .peek_bind fun token left => ?_
  split
  · have some := left rfl
    exact .next_bind (settled.nodeBefore block block ends (by omega))
  · exact agree_missing

theorem flowPair_succ (enough : 2 * n + 3 ≤ fuel + 1) :
    AgreeUpTo n (Compose.flowPair (fuel + 1)) (Compose.flowPair (fuel + 2)) := by
  unfold Compose.flowPair
  have value : ∀ {m} (key : Node), m ≤ n → AgreeUpTo m
      (do
        let value ← Compose.valueAfterColon false [.comma, .flowSequenceEnd] fuel
        let _ ← event
        return Node.mapping none [(key, value)])
      (do
        let value ← Compose.valueAfterColon false [.comma, .flowSequenceEnd] (fuel + 1)
        let _ ← event
        return Node.mapping none [(key, value)]) := by
    intro m key le
    refine (settled.valueAfterColon false _ ?_).bind fun value => agree_event.bind fun _ => .pure _
    simp only [Bool.toNat_false]
    omega
  refine agree_event.bind fun _ => .peek_bind fun token _ => .ite (fun _ => ?_) fun _ => ?_
  · refine (settled.node false false ?_).bind fun key => value key (le_refl _)
    simp only [Bool.toNat_false]
    omega
  · exact .next_bind <| agree_missing.bind fun key => value key (Nat.sub_le ..)

theorem flowItems_succ (first : Bool) (enough : 2 * n + 1 + 2 * first.toNat ≤ fuel + 1) :
    AgreeUpTo n (Compose.flowItems first (fuel + 1)) (Compose.flowItems first (fuel + 2)) := by
  unfold Compose.flowItems
  refine .peek_bind fun token _ => .ite (fun _ => .next_bind (.pure _)) fun _ => ?_
  refine .separator_bind fun m few => .peek_bind fun token left => ?_
  have fewer : 2 * m + 2 ≤ fuel := by cases first <;> simp at few enough <;> omega
  have item : AgreeUpTo m (Compose.node false false fuel) (Compose.node false false (fuel + 1)) :=
    settled.node false false fewer
  have items : ∀ {k}, k ≤ m →
      AgreeUpTo k (Compose.flowItems false fuel) (Compose.flowItems false (fuel + 1)) := fun le =>
    (settled.flowItems (n := m) false (Nat.le_of_succ_le fewer)).mono le
  split
  · exact .next_bind (.pure _)
  · have some := left rfl
    refine .next_bind <| (settled.flowPair (by omega)).bind fun pair => ?_
    exact (items (Nat.sub_le ..)).bind fun rest => .pure _
  · exact item.bind fun item => (items (le_refl _)).bind fun rest => .pure _

theorem flowPairs_succ (first : Bool) (enough : 2 * n + 1 + 2 * first.toNat ≤ fuel + 1) :
    AgreeUpTo n (Compose.flowPairs first (fuel + 1)) (Compose.flowPairs first (fuel + 2)) := by
  unfold Compose.flowPairs
  refine .peek_bind fun token _ => .ite (fun _ => .next_bind (.pure _)) fun _ => ?_
  refine .separator_bind fun m few => .peek_bind fun token left => ?_
  have fewer : 2 * m + 2 ≤ fuel := by cases first <;> simp at few enough <;> omega
  have pairs : ∀ {k}, k ≤ m →
      AgreeUpTo k (Compose.flowPairs false fuel) (Compose.flowPairs false (fuel + 1)) := fun le =>
    (settled.flowPairs (n := m) false (Nat.le_of_succ_le fewer)).mono le
  split
  · exact .next_bind (.pure _)
  · have some := left rfl
    refine .next_bind <| (settled.nodeBefore false false _ ?_).bind fun key => ?_
    · rw [Bool.toNat_false]
      omega
    refine (settled.valueAfterColon false _ ?_).bind fun value => ?_
    · rw [Bool.toNat_false]
      omega
    exact (pairs (Nat.sub_le ..)).bind fun rest => .pure _
  · refine (settled.node false false fewer).bind fun key => agree_missing.bind fun value => ?_
    exact (pairs (le_refl _)).bind fun rest => .pure _

theorem node_succ (block indentless : Bool) (enough : 2 * n + 2 + indentless.toNat ≤ fuel + 1) :
    AgreeUpTo n (Compose.node block indentless (fuel + 1))
      (Compose.node block indentless (fuel + 2)) := by
  have start : ∀ {m} (anchor : Option String), AgreeUpTo m
      (do let serial ← event; define anchor serial; return serial)
      (do let serial ← event; define anchor serial; return serial) := fun anchor =>
    agree_event.bind fun serial => (agree_define anchor serial).bind fun _ => .pure _
  have finish : ∀ {m} (anchor : Option String) (serial : Nat) (node : Node), AgreeUpTo m
      (do let _ ← event; keep anchor serial node)
      (do let _ ← event; keep anchor serial node) := fun anchor serial node =>
    agree_event.bind fun _ => agree_keep anchor serial node
  unfold Compose.node
  refine .peek_bind fun token _ => ?_
  split
  · refine .next_bind <| agree_event.bind fun _ => agree_get.bind fun c => ?_
    split
    · exact .pure _
    · exact .throw_bind _
  refine agree_properties.bind fun (anchor, text) => (agree_fullTag text).bind fun tag => ?_
  refine .peek_bind fun token left => ?_
  dsimp only
  split
  · exact .next_bind <| (start anchor).bind fun serial => agree_keep anchor serial _
  · have some := left rfl
    refine .next_bind <| (start anchor).bind fun serial => ?_
    refine (settled.flowItems true ?_).bind fun items => finish anchor serial _
    rw [Bool.toNat_true]
    omega
  · have some := left rfl
    refine .next_bind <| (start anchor).bind fun serial => ?_
    refine (settled.flowPairs true ?_).bind fun pairs => finish anchor serial _
    rw [Bool.toNat_true]
    omega
  refine .ite (fun loose => ?_) fun _ => .ite (fun opens => ?_) fun _ =>
    .ite (fun opens => ?_) fun _ => .ite (fun _ => ?_) fun _ => .throw _
  · -- No token is taken before the first dash, so the fuel has to last for one call more.
    rw [(Bool.and_eq_true_iff.1 loose).1, Bool.toNat_true] at enough
    refine (start anchor).bind fun serial => ?_
    exact (settled.looseItems (by omega)).bind fun items => finish anchor serial _
  · have some := left (by rw [of_decide_eq_true (Bool.and_eq_true_iff.1 opens).2]; rfl)
    refine .next_bind <| (start anchor).bind fun serial => ?_
    exact (settled.blockItems (by omega)).bind fun items => finish anchor serial _
  · have some := left (by rw [of_decide_eq_true (Bool.and_eq_true_iff.1 opens).2]; rfl)
    refine .next_bind <| (start anchor).bind fun serial => ?_
    exact (settled.blockPairs (by omega)).bind fun pairs => finish anchor serial _
  · exact (start anchor).bind fun serial => agree_keep anchor serial _

end Settled

/-- **Every call is settled** with the fuel that the structure asks for. -/
theorem settled (fuel : Nat) : Settled fuel := by
  induction fuel with
  | zero =>
    constructor
    all_goals
      intros
      omega
  | succ fuel ih =>
    exact
      { node := ih.node_succ
        nodeBefore := ih.nodeBefore_succ
        blockItems := ih.blockItems_succ
        looseItems := ih.looseItems_succ
        blockPairs := ih.blockPairs_succ
        valueAfterColon := ih.valueAfterColon_succ
        flowItems := ih.flowItems_succ
        flowPair := ih.flowPair_succ
        flowPairs := ih.flowPairs_succ }

/-! ## Documents -/

theorem ensures_directives (versionSeen : Bool) (handles : List (String × TagBytes))
    (tokens : List Token) :
    Ensures (directives versionSeen handles tokens)
      fun given => given.2.length ≤ tokens.length := by
  fun_induction directives with
  | case1 | case3 => exact .throw_bind
  | case2 _ _ _ _ tokens _ _ ih | case4 _ _ _ _ tokens _ _ ih =>
    exact fun given made => (ih given made).trans (Nat.le_succ _)
  | case5 => exact .pure (le_refl _)

theorem agree_skipDirectives : AgreeUpTo n skipDirectives skipDirectives := by
  intro c _
  refine ⟨rfl, ?_⟩
  simp only [skipDirectives, StateT.run_bind, StateT.run_get, StateT.run_monadLift,
    StateT.run_set, pure_bind, bind_assoc]
  exact (ensures_directives false c.handles c.tokens).bind fun given le => .pure le

theorem agree_skipEnds : AgreeUpTo n skipEnds skipEnds :=
  fun _ _ => ⟨rfl, .pure (List.dropWhile_suffix _).length_le⟩

theorem agree_addStandardHandles : AgreeUpTo n addStandardHandles addStandardHandles :=
  .of_tokens_eq fun _ => .pure rfl

theorem root_succ {fuel : Nat} (enough : 2 * n + 2 ≤ fuel) :
    AgreeUpTo n (root fuel) (root (fuel + 1)) := by
  have node : AgreeUpTo n (node true false fuel) (node true false (fuel + 1)) :=
    (settled fuel).node true false enough
  unfold root
  refine .peek_bind fun token _ => ?_
  split
  · exact agree_missing
  refine .ite (fun _ => ?_) fun _ => agree_addStandardHandles.bind fun _ => node
  refine agree_skipDirectives.bind fun _ => agree_addStandardHandles.bind fun _ => ?_
  refine .peek_bind fun token _ => .ite (fun _ => .throw_bind _) fun _ => ?_
  refine .next_bind (.peek_bind fun token _ => ?_)
  split
  · exact agree_missing
  · exact .ite (fun _ => agree_missing) fun _ => node.mono (Nat.sub_le ..)

theorem documentWith_succ {fuel : Nat} (enough : 2 * n + 2 ≤ fuel) :
    AgreeUpTo n (documentWith fuel) (documentWith (fuel + 1)) := by
  unfold documentWith
  refine (root_succ enough).bind fun node => agree_skipEnds.bind fun _ => ?_
  exact .peek_bind fun token _ => .ite (fun _ => .throw_bind _) fun _ => .pure _

/-- **The fuel of a document is enough for every text:** any more gives the same. -/
theorem document_run_eq {c : Composer} {fuel : Nat} (enough : 2 * c.left + 4 ≤ fuel) :
    document.run c = (documentWith fuel).run c := by
  have same : (documentWith (2 * c.left + 4)).run c = (documentWith fuel).run c := by
    induction fuel, enough using Nat.le_induction with
    | base => rfl
    | succ fuel le ih => exact ih.trans (documentWith_succ (by omega) c (le_refl _)).1
  rw [← same]
  simp only [document, StateT.run_bind, StateT.run_get, pure_bind, Composer.left]

end Compose
end Yaml
end Gradebook
