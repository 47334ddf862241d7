/-
# Standings that are kept

Standings that were worked out once are kept for every group and choice of students. They are
given out again as long as the publication they were worked out from is the one in force, and
until they are cleared. A cache that keeps nothing gives nothing.
-/

import Gradebook.Report

namespace Gradebook

/-- Which students of a group standings are for. -/
inductive CohortFilter where
  | all
  | retakes
deriving DecidableEq, Inhabited

def CohortFilter.keeps : CohortFilter → Student → Bool
  | all, _ => true
  | retakes, s => s.retake

/-- Standings and the number of the computation that they come from. -/
structure Issue where
  serial : Nat
  standings : Standings
deriving DecidableEq

structure StandingsCache.Entry where
  group : String
  filter : CohortFilter
  /-- The number of the publication that the standings were worked out from. -/
  publication : Nat
  issue : Issue
deriving DecidableEq

structure StandingsCache where
  /-- Whether anything is kept. -/
  keeps : Bool
  entries : List StandingsCache.Entry := []
deriving DecidableEq

namespace StandingsCache

/-- Whether an entry is for the students of a group. -/
def Entry.isFor (e : Entry) (group : String) (filter : CohortFilter) : Bool :=
  e.group = group && e.filter = filter

/-- The entry for the students of a group. -/
def entry? (cache : StandingsCache) (group : String) (filter : CohortFilter) : Option Entry :=
  cache.entries.find? fun e => e.isFor group filter

/-- **The standings that are kept for a publication.** -/
def find? (cache : StandingsCache) (group : String) (filter : CohortFilter)
    (publication : Nat) : Option Issue :=
  match cache.entry? group filter with
  | some e => if cache.keeps && e.publication = publication then some e.issue else none
  | none => none

/-- Keeps standings in exchange for those for the same students. -/
def keep (cache : StandingsCache) (e : Entry) : StandingsCache :=
  if cache.keeps then
    { cache with
      entries := e :: cache.entries.filter fun other => !other.isFor e.group e.filter }
  else cache

def clear (cache : StandingsCache) : StandingsCache := { cache with entries := [] }

/-! ## What is found -/

@[simp] theorem entries_clear (cache : StandingsCache) : cache.clear.entries = [] := rfl

@[simp] theorem keeps_clear (cache : StandingsCache) : cache.clear.keeps = cache.keeps := rfl

@[simp] theorem keeps_keep (cache : StandingsCache) (e : Entry) :
    (cache.keep e).keeps = cache.keeps := by
  unfold keep
  split <;> rfl

/-- Standings that are found are those of an entry. -/
theorem mem_entries_of_find?_eq_some {cache : StandingsCache} {group : String}
    {filter : CohortFilter} {publication : Nat} {issue : Issue}
    (h : cache.find? group filter publication = some issue) :
    ⟨group, filter, publication, issue⟩ ∈ cache.entries := by
  unfold find? entry? at h
  split at h
  · next e found =>
    have isFor := List.find?_some found
    have mem := List.mem_of_find?_eq_some found
    split at h
    · next kept =>
      simp only [Entry.isFor, Bool.and_eq_true, decide_eq_true_eq, Option.some.injEq]
        at isFor kept h
      obtain ⟨rfl, rfl⟩ := isFor
      obtain ⟨-, rfl⟩ := kept
      subst h
      exact mem
    · cases h
  · cases h

theorem mem_entries_keep {cache : StandingsCache} {e other : Entry}
    (h : other ∈ (cache.keep e).entries) : other = e ∨ other ∈ cache.entries := by
  unfold keep at h
  split at h
  · exact (List.mem_cons.1 h).imp id fun mem => (List.mem_filter.1 mem).1
  · exact .inr h

@[simp] theorem find?_clear (cache : StandingsCache) (group : String) (filter : CohortFilter)
    (publication : Nat) : cache.clear.find? group filter publication = none :=
  rfl

theorem entry?_keep {cache : StandingsCache} (keeps : cache.keeps = true) (e : Entry)
    (group : String) (filter : CohortFilter) :
    entry? (cache.keep e) group filter =
      if e.isFor group filter then some e else entry? cache group filter := by
  rw [keep, if_pos keeps, entry?, List.find?_cons]
  split
  · next isFor => rw [if_pos isFor]
  · next other =>
    rw [if_neg (by simp [other]), List.find?_filter, entry?]
    congr 1
    funext a
    -- An entry that was dropped is not the one that is looked for.
    by_cases isFor : a.isFor group filter
    · have kept : a.isFor e.group e.filter = false := by
        simp only [Entry.isFor, Bool.and_eq_true, decide_eq_true_eq] at isFor
        obtain ⟨rfl, rfl⟩ := isFor
        simp only [Entry.isFor, Bool.and_eq_false_iff, decide_eq_false_iff_not] at other ⊢
        exact other.imp Ne.symm Ne.symm
      simp [isFor, kept]
    · simp [isFor]

/-- **Standings that are kept are found.** -/
theorem find?_keep_self {cache : StandingsCache} (keeps : cache.keeps = true) (e : Entry) :
    (cache.keep e).find? e.group e.filter e.publication = some e.issue := by
  rw [find?, entry?_keep keeps, if_pos (by simp [Entry.isFor])]
  simp [keeps]

/-- What is found after keeping standings are these or was found before. -/
theorem find?_keep_eq_some {cache : StandingsCache} {e : Entry} {group : String}
    {filter : CohortFilter} {publication : Nat} {issue : Issue}
    (found : (cache.keep e).find? group filter publication = some issue) :
    e = ⟨group, filter, publication, issue⟩ ∨
      cache.find? group filter publication = some issue := by
  by_cases keeps : cache.keeps = true
  · rw [find?, entry?_keep keeps, keeps_keep] at found
    by_cases isFor : e.isFor group filter = true
    · obtain ⟨g, f, n, i⟩ := e
      simp only [Entry.isFor, Bool.and_eq_true, decide_eq_true_eq] at isFor
      obtain ⟨rfl, rfl⟩ := isFor
      left
      simpa [Entry.isFor, keeps] using found
    · rw [if_neg isFor] at found
      exact .inr found
  · rw [keep, if_neg keeps] at found
    exact .inr found

end StandingsCache
end Gradebook
