/-
# The steps of a service

What the steps of a service do while no access to its repository fails. A query that only reads
changes nothing but the log, standings that are kept are given out, others are worked out from
the register and then kept, and an override that is stored or taken away clears what is kept.
-/

import Gradebook.Proofs.Service.Ledger

namespace Gradebook

/-- The cache when some of its entries have expired. -/
def StandingsCache.expire (cache : StandingsCache) (gone : StandingsCache.Entry → Bool) :
    StandingsCache :=
  { cache with entries := cache.entries.filter fun e => !gone e }

theorem StandingsCache.mem_entries_of_mem_expire {cache : StandingsCache} {e : Entry}
    {gone : Entry → Bool} (mem : e ∈ (cache.expire gone).entries) : e ∈ cache.entries :=
  (List.mem_filter.1 mem).1

namespace Service

/-- The service when some of the standings that it keeps have expired. -/
def expire (s : Service) (gone : StandingsCache.Entry → Bool) : Service :=
  { s with cache := s.cache.expire gone }

/-- The service when its repository has another log. -/
def withLog (s : Service) (log : List Access) : Service :=
  { s with repository := { s.repository with log := log } }

/-- The service after an access that left a register. -/
def accessed (s : Service) (access : Access) (register : Register) : Service :=
  { s with repository := { s.repository.logged access with register := register } }

section

variable {s after : Service}

theorem get_apply (s : Service) : (get : ServiceM Service) s = (.ok s, s) := rfl

/-- A query that only reads changes nothing but the log. -/
theorem ask_of_gives {α : Type} {q : Query α} {f : Register → Except GradingError α}
    (gives : q.Gives f) (online : s.repository.Online) :
    ∃ log, ask q s = (f s.repository.register, s.withLog log) := by
  obtain ⟨log, run⟩ := gives s.repository online
  exact ⟨log, by simp only [ask, withLog, run]⟩

theorem ask_update {α : Type} (online : s.repository.Online) (access : Access)
    (f : Register → α × Register) :
    ask (Repository.update access f) s =
      (.ok (f s.repository.register).1, s.accessed access (f s.repository.register).2) := by
  simp only [ask, accessed, Repository.update_apply online]

theorem ask_read {α : Type} (online : s.repository.Online) (access : Access) (f : Register → α) :
    ask (Repository.read access f) s =
      (.ok (f s.repository.register), s.accessed access s.repository.register) :=
  ask_update online access _

theorem report_apply (online : s.repository.Online) (login : String) :
    ∃ log, report login s = (s.ledger.report login, s.withLog log) := by
  obtain ⟨log, asked⟩ := ask_of_gives (Query.gives_read .findStudent (·.student? login)) online
  rw [report, bind_apply_of_ok asked, Ledger.report]
  cases found : s.repository.register.student? login with
  | none => exact ⟨log, by simp only [ledger, found]; rfl⟩
  | some student =>
    obtain ⟨log, asked⟩ := ask_of_gives (s := s.withLog log)
      (Repository.gives_report s.platform s.live.catalog student) online
    refine ⟨log, ?_⟩
    simp only [ledger, found]
    exact asked

theorem standings_of_found {group : String} {filter : CohortFilter} {issue : Issue}
    (found : s.cache.find? group filter s.live.number = some issue) :
    standings group filter s = (.ok issue, s) := by
  rw [standings, bind_apply_of_ok (get_apply s), found]
  rfl

/-- Standings that fail are not kept. -/
theorem standings_of_error {group : String} {filter : CohortFilter} {e : GradingError}
    (missing : s.cache.find? group filter s.live.number = none)
    (asked : ask (Repository.standings s.platform s.live.catalog group filter.keeps) s =
      (.error e, after)) :
    standings group filter s = (.error e, after) := by
  rw [standings, bind_apply_of_ok (get_apply s), missing]
  refine bind_apply_of_error ?_
  rw [workOut, bind_apply_of_ok (get_apply s)]
  exact bind_apply_of_error asked

/-- Standings that are worked out get a number of their own and are kept. -/
theorem standings_of_ok {group : String} {filter : CohortFilter} {table : Standings}
    (missing : s.cache.find? group filter s.live.number = none)
    (asked : ask (Repository.standings s.platform s.live.catalog group filter.keeps) s =
      (.ok table, after)) :
    standings group filter s =
      (.ok ⟨s.issued, table⟩,
        keep s.live group filter ⟨s.issued, table⟩ { after with issued := after.issued + 1 }) := by
  have worked : workOut s.live group filter s =
      (.ok ⟨s.issued, table⟩, { after with issued := after.issued + 1 }) := by
    rw [workOut, bind_apply_of_ok (get_apply s)]
    exact bind_apply_of_ok asked
  rw [standings, bind_apply_of_ok (get_apply s), missing]
  exact bind_apply_of_ok worked

/-- **Standings that are not kept are worked out,** and kept if there are any. -/
theorem standings_of_missing (online : s.repository.Online) {group : String}
    {filter : CohortFilter} (missing : s.cache.find? group filter s.live.number = none) :
    ∃ log, standings group filter s =
      match s.ledger.standings group filter with
      | .ok table =>
        (.ok ⟨s.issued, table⟩,
          keep s.live group filter ⟨s.issued, table⟩ { s.withLog log with issued := s.issued + 1 })
      | .error e => (.error e, s.withLog log) := by
  obtain ⟨log, asked⟩ := ask_of_gives
    (Repository.gives_standings s.platform s.live.catalog group filter.keeps) online
  refine ⟨log, ?_⟩
  change ask _ s = (s.ledger.standings group filter, _) at asked
  cases fresh : s.ledger.standings group filter with
  | ok table =>
    rw [fresh] at asked
    exact standings_of_ok missing asked
  | error e =>
    rw [fresh] at asked
    exact standings_of_error missing asked

theorem setOverride_of_blank {o : Override}
    (blank : (Text.isBlankText o.login || Text.isBlankText o.taskId) = true) :
    setOverride o s = (.error (.invalidOverride "login and task_id are required"), s) := by
  simp only [setOverride, if_pos blank]
  rfl

/-- **An override that is stored** changes the register, and nothing is kept after it. -/
theorem setOverride_of_not_blank (online : s.repository.Online) {o : Override}
    (named : ¬ (Text.isBlankText o.login || Text.isBlankText o.taskId) = true) :
    setOverride o s =
      (.ok (), (s.accessed .setOverride (s.repository.register.setOverride o)).clear) := by
  simp only [setOverride, if_neg named]
  exact bind_apply_of_ok (ask_update online .setOverride _)

/-- **An override that is taken away** changes the register, and if there was one nothing is
kept after it. -/
theorem removeOverride_apply (online : s.repository.Online) (login taskId : String) :
    removeOverride login taskId s =
      (.ok (s.repository.register.hasOverride login taskId),
        (if s.repository.register.hasOverride login taskId then clear else id)
          (s.accessed .removeOverride (s.repository.register.removeOverride login taskId))) := by
  refine (bind_apply_of_ok (ask_update online .removeOverride _)).trans ?_
  cases s.repository.register.hasOverride login taskId <;> rfl

end

end Service
end Gradebook
