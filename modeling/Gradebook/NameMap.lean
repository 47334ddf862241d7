/-
# Maps from names

A map from names is a list of entries in ascending order of their names, which are compared by
code point. So a name has one entry at most, and two maps that find the same are equal
(`NameMap.ext`).
-/

namespace Gradebook

/-- Puts an entry in its place, in exchange for an entry of the same name. -/
def insertEntry {α : Type} (name : String) (value : α) : List (String × α) → List (String × α)
  | [] => [(name, value)]
  | (other, old) :: rest =>
    if name < other then (name, value) :: (other, old) :: rest
    else if name = other then (name, value) :: rest
    else (other, old) :: insertEntry name value rest

/-- Whether the names of entries ascend. -/
def Ascending {α : Type} (entries : List (String × α)) : Prop :=
  entries.Pairwise fun a b => a.1 < b.1

theorem mem_insertEntry {α : Type} {name : String} {value : α} {entry : String × α}
    {entries : List (String × α)} (h : entry ∈ insertEntry name value entries) :
    entry = (name, value) ∨ entry ∈ entries := by
  induction entries with
  | nil => simpa [insertEntry] using h
  | cons first rest ih =>
    obtain ⟨other, old⟩ := first
    rw [insertEntry] at h
    split at h
    · simpa using h
    · split at h
      · rcases List.mem_cons.1 h with h | h
        · exact .inl h
        · exact .inr (List.mem_cons_of_mem _ h)
      · rcases List.mem_cons.1 h with h | h
        · exact .inr (h ▸ List.mem_cons_self)
        · exact (ih h).imp id (List.mem_cons_of_mem _)

theorem ascending_insertEntry {α : Type} (name : String) (value : α)
    {entries : List (String × α)} (h : Ascending entries) :
    Ascending (insertEntry name value entries) := by
  induction entries with
  | nil => exact List.pairwise_singleton _ _
  | cons first rest ih =>
    obtain ⟨other, old⟩ := first
    have ⟨head, tail⟩ := List.pairwise_cons.1 h
    rw [insertEntry]
    split
    · next lt =>
      refine List.Pairwise.cons (fun b hb => ?_) h
      rcases List.mem_cons.1 hb with rfl | hb
      · exact lt
      · exact String.lt_trans lt (head b hb)
    · next notLt =>
      split
      · next eq => exact List.Pairwise.cons (fun b hb => eq ▸ head b hb) tail
      · next ne =>
        refine List.Pairwise.cons (fun b hb => ?_) (ih tail)
        rcases mem_insertEntry hb with rfl | hb
        · grind
        · exact head b hb

/-- **A map from names.** -/
structure NameMap (α : Type) where
  entries : List (String × α)
  ascending : Ascending entries
deriving DecidableEq

namespace NameMap

variable {α β : Type}

def empty : NameMap α := ⟨[], List.Pairwise.nil⟩

instance : Inhabited (NameMap α) := ⟨empty⟩

/-- The value of a name. -/
def find? (m : NameMap α) (name : String) : Option α := m.entries.lookup name

def contains (m : NameMap α) (name : String) : Bool := (m.find? name).isSome

/-- Sets the value of a name. -/
def insert (m : NameMap α) (name : String) (value : α) : NameMap α :=
  ⟨insertEntry name value m.entries, ascending_insertEntry name value m.ascending⟩

/-- Of several entries for one name the last counts. -/
def ofList (entries : List (String × α)) : NameMap α :=
  entries.foldl (fun m entry => m.insert entry.1 entry.2) empty

def names (m : NameMap α) : List String := m.entries.map (·.1)
def values (m : NameMap α) : List α := m.entries.map (·.2)
def size (m : NameMap α) : Nat := m.entries.length
def isEmpty (m : NameMap α) : Bool := m.entries.isEmpty

/-- Whether two maps have the same names with values that agree. -/
def agree (same : α → α → Bool) (m n : NameMap α) : Bool :=
  m.names = n.names && (m.values.zip n.values).all fun (a, b) => same a b

theorem lookup_cons_eq_ite (name key : String) (value : α) (rest : List (String × α)) :
    ((key, value) :: rest).lookup name = if name = key then some value else rest.lookup name := by
  by_cases h : name = key
  · subst h; simp
  · rw [if_neg h, List.lookup_cons, beq_eq_false_iff_ne.2 h]

theorem lookup_insertEntry (name other : String) (value : α) (entries : List (String × α)) :
    (insertEntry name value entries).lookup other =
      if other = name then some value else entries.lookup other := by
  induction entries with
  | nil => rw [insertEntry, lookup_cons_eq_ite]
  | cons first rest ih =>
    obtain ⟨key, old⟩ := first
    rw [insertEntry]
    split
    · rw [lookup_cons_eq_ite]
    · split
      · next eq =>
        subst eq
        rw [lookup_cons_eq_ite, lookup_cons_eq_ite]
        split <;> rfl
      · next ne =>
        rw [lookup_cons_eq_ite, lookup_cons_eq_ite, ih]
        by_cases h : other = key
        · subst h; simp [Ne.symm ne]
        · simp [h]

@[simp] theorem find?_empty (name : String) : (empty : NameMap α).find? name = none := rfl

/-- Setting a name changes what is found for that name and for no other. -/
theorem find?_insert (m : NameMap α) (name other : String) (value : α) :
    (m.insert name value).find? other = if other = name then some value else m.find? other :=
  lookup_insertEntry name other value m.entries

@[simp] theorem find?_insert_self (m : NameMap α) (name : String) (value : α) :
    (m.insert name value).find? name = some value := by
  simp [find?_insert]

theorem lookup_eq_some_iff {entries : List (String × α)} (h : Ascending entries)
    {name : String} {value : α} :
    entries.lookup name = some value ↔ (name, value) ∈ entries := by
  induction entries with
  | nil => simp
  | cons first rest ih =>
    obtain ⟨key, old⟩ := first
    have ⟨head, tail⟩ := List.pairwise_cons.1 h
    rw [lookup_cons_eq_ite]
    by_cases eq : name = key
    · subst eq
      have fresh : (name, value) ∉ rest := fun mem =>
        String.lt_irrefl _ (head (name, value) mem)
      simp [fresh, eq_comm]
    · simp [eq, ih tail]

/-- A name is found with the value of its entry. -/
theorem find?_eq_some_iff {m : NameMap α} {name : String} {value : α} :
    m.find? name = some value ↔ (name, value) ∈ m.entries :=
  lookup_eq_some_iff m.ascending

/-- Of several entries for one name the last is found. -/
theorem find?_ofList (entries : List (String × α)) (name : String) :
    (ofList entries).find? name = entries.reverse.lookup name := by
  rw [ofList, ← List.foldr_reverse]
  induction entries.reverse with
  | nil => rfl
  | cons entry rest ih => rw [List.foldr_cons, find?_insert, ih, lookup_cons_eq_ite]

/-- The first entry that has something is the one of the least name that has something. -/
theorem findSome?_entries_eq_some_iff {m : NameMap α} {f : String × α → Option β} {b : β} :
    m.entries.findSome? f = some b ↔
      ∃ name value, m.find? name = some value ∧ f (name, value) = some b ∧
        ∀ other < name, ∀ v, m.find? other = some v → f (other, v) = none := by
  rw [List.findSome?_eq_some_iff]
  constructor
  · rintro ⟨before, ⟨name, value⟩, after, split, found, none⟩
    have ⟨_, ascends, _⟩ := List.pairwise_append.1 (split ▸ m.ascending)
    refine ⟨name, value, by simp [find?_eq_some_iff, split], found, fun other lt v hv => ?_⟩
    rw [find?_eq_some_iff, split, List.mem_append, List.mem_cons] at hv
    rcases hv with hv | eq | hv
    · exact none _ hv
    · cases eq
      exact absurd lt (String.lt_irrefl _)
    · exact absurd lt (String.lt_asymm ((List.pairwise_cons.1 ascends).1 _ hv))
  · rintro ⟨name, value, mem, found, none⟩
    obtain ⟨before, after, split⟩ := List.append_of_mem (find?_eq_some_iff.1 mem)
    refine ⟨before, (name, value), after, split, found, fun (other, v) hv => ?_⟩
    have ⟨_, _, apart⟩ := List.pairwise_append.1 (split ▸ m.ascending)
    refine none other (apart _ hv _ List.mem_cons_self) v ?_
    rw [find?_eq_some_iff, split]
    exact List.mem_append_left _ hv

theorem findSome?_entries_eq_none_iff {m : NameMap α} {f : String × α → Option β} :
    m.entries.findSome? f = none ↔
      ∀ name value, m.find? name = some value → f (name, value) = none := by
  simp [List.findSome?_eq_none_iff, find?_eq_some_iff]

/-- **Two maps that find the same are equal.** -/
theorem ext {m n : NameMap α} (h : ∀ name, m.find? name = n.find? name) : m = n := by
  obtain ⟨xs, hx⟩ := m
  obtain ⟨ys, hy⟩ := n
  have same : ∀ entry, entry ∈ xs ↔ entry ∈ ys := fun ⟨name, value⟩ => by
    rw [← lookup_eq_some_iff hx, ← lookup_eq_some_iff hy]
    exact iff_of_eq (congrArg (· = some value) (h name))
  suffices xs = ys by subst this; rfl
  clear h
  induction xs generalizing ys with
  | nil =>
    cases ys with
    | nil => rfl
    | cons y ys => exact absurd ((same y).2 List.mem_cons_self) List.not_mem_nil
  | cons x xs ih =>
    cases ys with
    | nil => exact absurd ((same x).1 List.mem_cons_self) List.not_mem_nil
    | cons y ys =>
      have ⟨headX, tailX⟩ := List.pairwise_cons.1 hx
      have ⟨headY, tailY⟩ := List.pairwise_cons.1 hy
      have eq : x = y := by
        rcases List.mem_cons.1 ((same x).1 List.mem_cons_self) with eq | memX
        · exact eq
        · rcases List.mem_cons.1 ((same y).2 List.mem_cons_self) with eq | memY
          · exact eq.symm
          · exact absurd (headX y memY) (String.lt_asymm (headY x memX))
      subst eq
      refine congrArg _ (ih tailX ys tailY fun entry => ⟨fun mem => ?_, fun mem => ?_⟩)
      · rcases List.mem_cons.1 ((same entry).1 (List.mem_cons_of_mem _ mem)) with eq | mem'
        · subst eq; exact absurd (headX entry mem) (String.lt_irrefl _)
        · exact mem'
      · rcases List.mem_cons.1 ((same entry).2 (List.mem_cons_of_mem _ mem)) with eq | mem'
        · subst eq; exact absurd (headY entry mem) (String.lt_irrefl _)
        · exact mem'

end NameMap
end Gradebook
