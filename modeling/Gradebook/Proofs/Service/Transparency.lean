/-
# Standings that are kept are the standings of the moment

A service answers every request as its ledger demands (`Service.Coherent.follows`), whether it
keeps standings or not. What makes this true is that all standings that are kept for the
publication in force are those that would be worked out at the moment (`Service.Coherent`):

* standings that are worked out are kept for their own group and choice of students;
* what changes an override clears them, and an override that is not there changes nothing when
  it is taken away;
* a publication has a number above all numbers before it, so that nothing is kept for it yet.
-/

import Gradebook.Proofs.Service.Steps

namespace Gradebook
namespace Service

/-! ## Coherence -/

/-- **What a service keeps is true.** -/
structure Coherent (s : Service) : Prop where
  online : s.repository.Online
  /-- Nothing is kept for a publication to come. -/
  known : ∀ e ∈ s.cache.entries, e.publication ≤ s.live.number
  /-- What is kept for the publication in force are the standings of the moment. -/
  current : ∀ e ∈ s.cache.entries, e.publication = s.live.number →
    s.ledger.standings e.group e.filter = .ok e.issue.standings

/-- **A request is answered as the ledger demands.** -/
structure Follows (s : Service) (request : Request) : Prop where
  answer : (s.respond request).1 = (s.ledger.respond request).1
  ledger : (s.respond request).2.ledger = (s.ledger.respond request).2
  coherent : (s.respond request).2.Coherent

namespace Coherent

variable {s : Service}

theorem start (platform : Platform) (keeps : Bool) (catalog : Catalog) (register : Register) :
    (start platform keeps catalog register).Coherent where
  online := rfl
  known _ mem := absurd mem List.not_mem_nil
  current _ mem := absurd mem List.not_mem_nil

/-- A service that keeps nothing is coherent. -/
theorem clear (online : s.repository.Online) : s.clear.Coherent where
  online := online
  known _ mem := absurd mem List.not_mem_nil
  current _ mem := absurd mem List.not_mem_nil

theorem logged (h : s.Coherent) (log : List Access) :
    (s.withLog log).Coherent :=
  ⟨h.online, h.known, h.current⟩

/-- Keeping the standings of the moment. -/
theorem keep (h : s.Coherent) {group : String} {filter : CohortFilter} {issue : Issue}
    (fresh : s.ledger.standings group filter = .ok issue.standings) :
    (s.keep s.live group filter issue).Coherent where
  online := h.online
  known e mem := by
    rcases StandingsCache.mem_entries_keep mem with rfl | mem
    · exact Nat.le_refl _
    · exact h.known e mem
  current e mem same := by
    rcases StandingsCache.mem_entries_keep mem with rfl | mem
    · exact fresh
    · exact h.current e mem same

/-- A publication has a new number. -/
theorem next (h : s.Coherent) (catalog : Catalog) :
    Coherent { s with live := s.live.next catalog } where
  online := h.online
  known e mem := Nat.le_succ_of_le (h.known e mem)
  current e mem same := by
    have known := h.known e mem
    rw [same] at known
    exact absurd known (Nat.not_succ_le_self _)

/-! ### Every request -/

theorem follows_standings (h : s.Coherent) (group : String) (filter : CohortFilter) :
    s.Follows (.standings group filter) := by
  cases looked : s.cache.find? group filter s.live.number with
  | some issue =>
    have fresh := h.current _ (StandingsCache.mem_entries_of_find?_eq_some looked) rfl
    have run := standings_of_found looked
    constructor <;> simp only [respond, run, Ledger.respond]
    · rw [fresh]
      rfl
    · exact h
  | none =>
    obtain ⟨log, run⟩ := standings_of_missing h.online looked
    cases fresh : s.ledger.standings group filter with
    | error e =>
      rw [fresh] at run
      constructor <;> simp only [respond, run, Ledger.respond]
      · rw [fresh]
        rfl
      · rfl
      · exact h.logged log
    | ok table =>
      rw [fresh] at run
      constructor <;> simp only [respond, run, Ledger.respond]
      · rw [fresh]
        rfl
      · rfl
      · have counted : Coherent { s.withLog log with issued := s.issued + 1 } :=
          ⟨h.online, h.known, h.current⟩
        exact counted.keep fresh

theorem follows_report (h : s.Coherent) (login : String) : s.Follows (.report login) := by
  obtain ⟨log, run⟩ := report_apply h.online login
  constructor <;> simp only [respond, run, Ledger.respond]
  · rfl
  · exact h.logged log

theorem follows_setOverride (h : s.Coherent) (o : Override) : s.Follows (.setOverride o) := by
  by_cases blank : (Text.isBlankText o.login || Text.isBlankText o.taskId) = true
  · constructor <;> simp only [respond, setOverride_of_blank blank, Ledger.respond, if_pos blank]
    exact h
  · constructor <;>
      simp only [respond, setOverride_of_not_blank h.online blank, Ledger.respond, if_neg blank]
    · rfl
    · exact clear h.online

theorem follows_removeOverride (h : s.Coherent) (login taskId : String) :
    s.Follows (.removeOverride login taskId) := by
  have run := removeOverride_apply h.online login taskId
  cases held : s.repository.register.hasOverride login taskId with
  | true =>
    rw [held] at run
    constructor <;> simp only [respond, run, Ledger.respond]
    · exact congrArg (Answer.removed <| .ok ·) held.symm
    · rfl
    · exact clear h.online
  | false =>
    rw [held, Register.removeOverride_of_hasOverride_eq_false held] at run
    constructor <;> simp only [respond, run, Ledger.respond]
    · exact congrArg (Answer.removed <| .ok ·) held.symm
    · exact congrArg (Ledger.mk s.platform s.live)
        (Register.removeOverride_of_hasOverride_eq_false held).symm
    · exact h.logged _

/-- **A coherent service answers every request as its ledger demands** and stays coherent. -/
theorem follows (h : s.Coherent) : ∀ request, s.Follows request
  | .standings group filter => h.follows_standings group filter
  | .report login => h.follows_report login
  | .setOverride o => h.follows_setOverride o
  | .removeOverride login taskId => h.follows_removeOverride login taskId
  | .publish catalog => ⟨rfl, rfl, h.next catalog⟩
  | .refresh (.ok catalog) => ⟨rfl, rfl, h.next catalog⟩
  | .refresh (.error _) => ⟨rfl, rfl, h⟩

/-! ### Runs -/

/-- **All requests of a run are answered as the ledger demands.** -/
theorem answers_eq (h : s.Coherent) (requests : List Request) :
    s.answers requests = s.ledger.answers requests := by
  induction requests generalizing s with
  | nil => rfl
  | cons request rest ih =>
    have follows := h.follows request
    rw [answers, Ledger.answers, follows.answer, ih follows.coherent, follows.ledger]

theorem after (h : s.Coherent) (requests : List Request) :
    (s.after requests).Coherent ∧ (s.after requests).ledger = s.ledger.after requests := by
  induction requests generalizing s with
  | nil => exact ⟨h, rfl⟩
  | cons request rest ih =>
    have follows := h.follows request
    obtain ⟨coherent, ledger⟩ := ih follows.coherent
    refine ⟨coherent, ledger.trans ?_⟩
    rw [follows.ledger]
    rfl

/-- The standings that a coherent service gives are those of the moment. -/
theorem standings_eq (h : s.Coherent) (group : String) (filter : CohortFilter) :
    (s.respond (.standings group filter)).1 = .standings (s.fresh group filter) := by
  rw [(h.follows_standings group filter).answer, fresh_eq_ledger_standings h.online]
  rfl

end Coherent

/-! ## With and without a cache -/

/-- **What is kept cannot be told from the answers.** For every catalog and register to begin
with and every run of requests, a service that keeps standings gives the answers of one that
keeps none and comes to the same publication and register. After every run the standings that
either gives are those that are worked out from its repository and catalog at the moment. -/
theorem answers_keeping_eq (platform : Platform) (catalog : Catalog) (register : Register)
    (requests : List Request) :
    (start platform true catalog register).answers requests =
        (start platform false catalog register).answers requests ∧
      ((start platform true catalog register).after requests).ledger =
        ((start platform false catalog register).after requests).ledger ∧
      ∀ keeps group filter,
        let s := (start platform keeps catalog register).after requests
        (s.respond (.standings group filter)).1 = .standings (s.fresh group filter) := by
  have keeping := Coherent.start platform true catalog register
  have plain := Coherent.start platform false catalog register
  refine ⟨?_, ?_, fun keeps group filter => ?_⟩
  · rw [keeping.answers_eq, plain.answers_eq]
    rfl
  · rw [(keeping.after requests).2, (plain.after requests).2]
    rfl
  · exact ((Coherent.start platform keeps catalog register).after requests).1.standings_eq
      group filter

end Service
end Gradebook
