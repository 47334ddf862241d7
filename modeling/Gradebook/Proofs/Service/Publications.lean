/-
# Standings while catalogs are published

Calls for standings and publications take turns in any order, and standings that are kept expire at
any time (`Traffic.play`). A call may be slow: it works out and keeps standings from the catalog it
took in its first turn, though others have been published since. That does no harm. Everything that
is kept or given can be traced to the publication that it was worked out from (`Traffic.Traced`),
kept standings carry the number of that publication, and no two publications have the same number
(`Traffic.live_eq_of_number_eq`). So every answer is worked out from the catalog that was in force
when the call took its first turn.

A refresh that succeeds publishes its catalog in a single turn too, like any other publication, and
one that fails publishes nothing (`Service.adopt`).
-/

import Gradebook.Proofs.Repository.Batch
import Gradebook.Proofs.Service.Interleaving

namespace Gradebook

open Service

namespace Traffic

/-- What can happen next: a call takes a turn, or standings that are kept expire. -/
inductive Event where
  | turn (k : Nat)
  | expire (gone : StandingsCache.Entry → Bool)

variable (t : Traffic)

/-- The moment after an event. -/
def happen (m : Moment) : Event → Moment
  | .turn k => t.turn m k
  | .expire gone => { m with service := m.service.expire gone }

/-- **The moment after events.** -/
def play (events : List Event) : Moment := events.foldl t.happen t.start

theorem play_concat (events : List Event) (event : Event) :
    t.play (events ++ [event]) = t.happen (t.play events) event := by
  rw [play, List.foldl_append]
  rfl

theorem steady_play (events : List Event) : t.Steady (t.play events) := by
  induction events using List.reverseRecOn with
  | nil => exact .start t
  | append_singleton events event ih =>
    rw [play_concat]
    cases event with
    | turn k => exact ih.turn k
    | expire gone => exact ⟨ih.online, ih.platform, ih.keeps, ih.register, ih.reading⟩

/-- **Every turn is one of those listed.** -/
theorem turn_play (events : List Event) (k : Nat) :
    Turn (t.play events).service (t.calls k) ((t.play events).progress k)
      (t.play (events ++ [.turn k])).service ((t.play (events ++ [.turn k])).progress k) := by
  rw [play_concat]
  exact t.advance_turn (t.steady_play events).online k

variable {t} {events past later : List Event}

/-- An event that is no turn of a call leaves the call where it is. -/
theorem progress_play_concat_of_ne {event : Event} {n : Nat} (ne : event ≠ .turn n) :
    (t.play (events ++ [event])).progress n = (t.play events).progress n := by
  rw [play_concat]
  cases event with
  | turn k => exact progress_turn_of_ne fun same => ne (same ▸ rfl)
  | expire gone => rfl

theorem progress_play_ne_waiting {k : Nat} (before : past <+: later)
    (begun : (t.play past).progress k ≠ .waiting) : (t.play later).progress k ≠ .waiting := by
  obtain ⟨more, rfl⟩ := before
  induction more using List.reverseRecOn with
  | nil => rwa [List.append_nil]
  | append_singleton more event ih =>
    rw [← List.append_assoc]
    by_cases own : event = .turn k
    · subst own
      exact (t.turn_play _ k).ne_waiting
    · rwa [progress_play_concat_of_ne own]

/-- A moment at which a call has begun is no earlier than one at which it is waiting. -/
theorem prefix_of_begun {k : Nat} (first : past <+: events) (second : later <+: events)
    (waits : (t.play past).progress k = .waiting) (begun : (t.play later).progress k ≠ .waiting) :
    past <+: later := by
  rcases List.prefix_or_prefix_of_prefix first second with before | before
  · exact before
  · exact absurd waits (progress_play_ne_waiting before begun)

/-- A moment at which a call is waiting is no later than the one of its first turn. -/
theorem prefix_of_waiting {k : Nat} (first : past <+: events)
    (turn : later ++ [.turn k] <+: events) (waits : (t.play past).progress k = .waiting) :
    past <+: later := by
  have begun : (t.play (later ++ [.turn k])).progress k ≠ .waiting :=
    (t.turn_play later k).ne_waiting
  rcases List.prefix_concat_iff.1 (prefix_of_begun first turn waits begun) with rfl | before
  · exact absurd waits begun
  · exact before

/-! ## Publications -/

/-- An event leaves the publication in force, or puts the next one in its place. -/
theorem live_play_concat (t : Traffic) (events : List Event) (event : Event) :
    (t.play (events ++ [event])).service.live = (t.play events).service.live ∨
      (t.play events).service.live.number < (t.play (events ++ [event])).service.live.number := by
  cases event with
  | turn k =>
    rcases (t.turn_play events k).live_or_next with same | ⟨catalog, -, -, next⟩
    · exact .inl same
    · rw [next]
      exact .inr (Nat.lt_succ_self _)
  | expire gone =>
    rw [play_concat]
    exact .inl rfl

/-- **Later publications have greater numbers.** -/
theorem live_eq_or_number_lt (before : past <+: later) :
    (t.play later).service.live = (t.play past).service.live ∨
      (t.play past).service.live.number < (t.play later).service.live.number := by
  obtain ⟨more, rfl⟩ := before
  induction more using List.reverseRecOn with
  | nil => exact .inl (by rw [List.append_nil])
  | append_singleton more event ih =>
    rw [← List.append_assoc]
    rcases t.live_play_concat (past ++ more) event with same | greater
    · rwa [same]
    · rcases ih with same | less
      · rw [same] at greater
        exact .inr greater
      · exact .inr (Nat.lt_trans less greater)

/-- **A publication is known by its number.** -/
theorem live_eq_of_number_eq (before : past <+: events) (before' : later <+: events)
    (same : (t.play past).service.live.number = (t.play later).service.live.number) :
    (t.play past).service.live = (t.play later).service.live := by
  rcases List.prefix_or_prefix_of_prefix before before' with first | first
  · rcases live_eq_or_number_lt (t := t) first with eq | less
    · exact eq.symm
    · omega
  · rcases live_eq_or_number_lt (t := t) first with eq | less
    · exact eq
    · omega

theorem number_le (before : past <+: later) :
    (t.play past).service.live.number ≤ (t.play later).service.live.number := by
  rcases live_eq_or_number_lt (t := t) before with same | less
  · exact Nat.le_of_eq (congrArg Publication.number same.symm)
  · exact Nat.le_of_lt less

/-- **Once a catalog is published** the publication in force has a greater number than before. -/
theorem number_lt_of_published {i : Nat} {catalog : Catalog} (call : t.calls i = .publish catalog)
    (waits : (t.play past).progress i = .waiting) (before : past <+: later)
    (begun : (t.play later).progress i ≠ .waiting) :
    (t.play past).service.live.number < (t.play later).service.live.number := by
  obtain ⟨more, rfl⟩ := before
  induction more using List.reverseRecOn with
  | nil => exact absurd waits (by rwa [List.append_nil] at begun)
  | append_singleton more event ih =>
    rw [← List.append_assoc] at begun ⊢
    by_cases still : (t.play (past ++ more)).progress i = .waiting
    · have own : event = .turn i :=
        by_contra fun ne => begun ((progress_play_concat_of_ne ne).trans still)
      have turn := t.turn_play (past ++ more) i
      rw [call, still] at turn
      rw [own, turn.published]
      exact Nat.lt_succ_of_le (number_le (List.prefix_append past more))
    · exact Nat.lt_of_lt_of_le (ih still) (number_le (List.prefix_append _ [event]))

/-! ## Where standings come from -/

/-- **A call took a publication** that was in force when it had its first turn. -/
def Took (t : Traffic) (events : List Event) (k : Nat) (publication : Publication) : Prop :=
  ∃ past, past ++ [.turn k] <+: events ∧ (t.play past).progress k = .waiting ∧
    (t.play past).service.live = publication

/-- Some standings, or the error in place of them, are those of a publication, worked out from the
register of some moment. -/
def WorkedOut (t : Traffic) (events : List Event) (publication : Publication) (group : String)
    (filter : CohortFilter) (given : Except GradingError Standings) : Prop :=
  ∃ seen, seen <+: events ∧
    given = (t.play seen).service.repository.register.standings t.platform publication.catalog
      group filter.keeps

theorem Took.concat {k : Nat} {publication : Publication} (took : t.Took events k publication)
    (event : Event) : t.Took (events ++ [event]) k publication := by
  obtain ⟨past, before, waits, live⟩ := took
  exact ⟨past, before.trans (List.prefix_append _ _), waits, live⟩

section

variable {publication : Publication} {group : String} {filter : CohortFilter}
  {given : Except GradingError Standings}

theorem WorkedOut.concat (worked : t.WorkedOut events publication group filter given)
    (event : Event) : t.WorkedOut (events ++ [event]) publication group filter given := by
  obtain ⟨seen, before, same⟩ := worked
  exact ⟨seen, before.trans (List.prefix_append _ _), same⟩

/-- What a call has read gives the standings of its publication. -/
theorem workedOut_of_reading {k : Nat} {course : Course} {students : List Student}
    {pipelines : List Pipeline} {flags : List Flag} (call : t.calls k = .standings group filter)
    (reading : (t.play events).progress k =
      .reading publication course (.flags students pipelines flags))
    (made : Repository.tabulate (t.play events).service.platform group course
      (students.filter filter.keeps) pipelines flags
      (t.play events).service.repository.register.overrides = given) :
    t.WorkedOut events publication group filter given := by
  have steady := t.steady_play events
  obtain ⟨known, holds⟩ := steady.reading call reading
  rw [steady.tabulate_eq filter known holds, steady.platform] at made
  exact ⟨events, List.prefix_rfl, made.symm⟩

theorem workedOut_of_unknown {e : GradingError}
    (unknown : publication.catalog.course group = .error e) :
    t.WorkedOut events publication group filter (.error e) :=
  ⟨events, List.prefix_rfl, (Register.standings_of_unknown unknown).symm⟩

end

/-- **What a call holds and gives** was worked out from the publication that it took. -/
structure CallTraced (t : Traffic) (events : List Event) (k : Nat) : Prop where
  held : ∀ {publication}, ((t.play events).progress k).publication? = some publication →
    t.Took events k publication
  worked : ∀ {group filter publication issue}, t.calls k = .standings group filter →
    (t.play events).progress k = .worked publication issue →
      t.WorkedOut events publication group filter (.ok issue.standings)
  answered : ∀ {group filter given}, t.calls k = .standings group filter →
    (t.play events).progress k = .answered given →
      ∃ publication standings, t.Took events k publication ∧
        t.WorkedOut events publication group filter standings ∧
          given = standings.map Reply.standings

/-- **Everything can be traced** to a publication, kept standings to the one of their number. -/
structure Traced (t : Traffic) (events : List Event) : Prop where
  cached : ∀ e ∈ (t.play events).service.cache.entries,
    ∃ past, past <+: events ∧ (t.play past).service.live.number = e.publication ∧
      t.WorkedOut events (t.play past).service.live e.group e.filter (.ok e.issue.standings)
  calls : ∀ k, t.CallTraced events k

/-- Standings that are found for a publication that a call took were worked out from it. -/
theorem Traced.workedOut_of_found (traced : t.Traced events) {k : Nat}
    {publication : Publication} {group : String} {filter : CohortFilter} {issue : Issue}
    (took : t.Took events k publication)
    (found : (t.play events).service.cache.find? group filter publication.number = some issue) :
    t.WorkedOut events publication group filter (.ok issue.standings) := by
  obtain ⟨past, before, number, worked⟩ :=
    traced.cached _ (StandingsCache.mem_entries_of_find?_eq_some found)
  obtain ⟨first, begun, -, live⟩ := took
  have same : (t.play past).service.live = (t.play first).service.live :=
    live_eq_of_number_eq before ((List.prefix_append _ _).trans begun) (by rw [number, live])
  rwa [← live, ← same]

namespace CallTraced

variable {k : Nat}

/-- An event that leaves a call where it is leaves it traced. -/
theorem concat (traced : t.CallTraced events k) {event : Event} (other : event ≠ .turn k) :
    t.CallTraced (events ++ [event]) k where
  held holds := by
    rw [progress_play_concat_of_ne other] at holds
    exact (traced.held holds).concat event
  worked call worked := by
    rw [progress_play_concat_of_ne other] at worked
    exact (traced.worked call worked).concat event
  answered call answered := by
    rw [progress_play_concat_of_ne other] at answered
    obtain ⟨publication, standings, took, worked, same⟩ := traced.answered call answered
    exact ⟨publication, standings, took.concat event, worked.concat event, same⟩

/-- An answer that a call gives with a turn can be traced. -/
theorem answered_turn (all : t.Traced events) {group : String} {filter : CohortFilter}
    {given : Except GradingError Reply} (call : t.calls k = .standings group filter)
    (answered : (t.play (events ++ [.turn k])).progress k = .answered given) :
    ∃ publication standings, t.Took events k publication ∧
      t.WorkedOut events publication group filter standings ∧
        given = standings.map Reply.standings := by
  have traced := all.calls k
  have turn := t.turn_play events k
  rw [call, answered] at turn
  -- It is kept standings, the lack of a course, a failure, its own standings, or the answer that
  -- it already had.
  rcases turn.answered with ⟨publication, issue, chosen, found, rfl⟩ |
    ⟨publication, e, chosen, unknown, rfl⟩ |
    ⟨publication, course, students, pipelines, flags, e, reading, failed, rfl⟩ |
    ⟨publication, issue, worked, rfl⟩ | before
  · have took : t.Took events k publication := traced.held (by rw [chosen]; rfl)
    exact ⟨publication, .ok issue.standings, took, all.workedOut_of_found took found, rfl⟩
  · have took : t.Took events k publication := traced.held (by rw [chosen]; rfl)
    exact ⟨publication, .error e, took, workedOut_of_unknown unknown, rfl⟩
  · have took : t.Took events k publication := traced.held (by rw [reading]; rfl)
    exact ⟨publication, .error e, took, workedOut_of_reading call reading failed, rfl⟩
  · have took : t.Took events k publication := traced.held (by rw [worked]; rfl)
    exact ⟨publication, .ok issue.standings, took, traced.worked call worked, rfl⟩
  · exact traced.answered call before

theorem turn (all : t.Traced events) (k : Nat) : t.CallTraced (events ++ [.turn k]) k where
  held holds := by
    rcases (t.turn_play events k).publication? holds with before | ⟨waits, rfl⟩
    · exact ((all.calls k).held before).concat _
    · exact ⟨events, List.prefix_rfl, waits, rfl⟩
  worked call worked := by
    have turn := t.turn_play events k
    rw [call, worked] at turn
    rcases turn.worked with ⟨course, students, pipelines, flags, reading, made⟩ | before
    · exact (workedOut_of_reading call reading made).concat _
    · exact ((all.calls k).worked call before).concat _
  answered call answered := by
    obtain ⟨publication, standings, took, worked, same⟩ := answered_turn all call answered
    exact ⟨publication, standings, took.concat _, worked.concat _, same⟩

end CallTraced

namespace Traced

/-- What is kept after an event was kept before, or a call had worked it out. -/
theorem cached_concat (traced : t.Traced events) (event : Event) {e : StandingsCache.Entry}
    (mem : e ∈ (t.play (events ++ [event])).service.cache.entries) :
    ∃ past, past <+: events ∧ (t.play past).service.live.number = e.publication ∧
      t.WorkedOut events (t.play past).service.live e.group e.filter (.ok e.issue.standings) := by
  cases event with
  | turn k =>
    rcases (t.turn_play events k).mem_entries mem with old | ⟨call, publication, worked, number⟩
    · exact traced.cached e old
    · obtain ⟨past, begun, -, live⟩ := (traced.calls k).held (by rw [worked]; rfl)
      refine ⟨past, (List.prefix_append _ _).trans begun, by rw [live, number], ?_⟩
      rw [live]
      exact (traced.calls k).worked call worked
  | expire gone =>
    rw [play_concat] at mem
    exact traced.cached e (StandingsCache.mem_entries_of_mem_expire mem)

theorem concat (traced : t.Traced events) (event : Event) : t.Traced (events ++ [event]) where
  cached e mem := by
    obtain ⟨past, before, number, worked⟩ := traced.cached_concat event mem
    exact ⟨past, before.trans (List.prefix_append _ _), number, worked.concat event⟩
  calls k := by
    by_cases own : event = .turn k
    · subst own
      exact .turn traced k
    · exact (traced.calls k).concat own

end Traced

theorem traced_play (t : Traffic) (events : List Event) : t.Traced events := by
  induction events using List.reverseRecOn with
  | nil =>
    refine ⟨fun _ mem => absurd mem List.not_mem_nil, fun k => ⟨?_, ?_, ?_⟩⟩
    · exact nofun
    · exact nofun
    · exact nofun
  | append_singleton events event ih => exact ih.concat event

/-! ## While no override changes -/

/-- All calls ask for standings or publish a catalog. -/
def AskOrPublish (t : Traffic) : Prop :=
  ∀ k, (∃ group filter, t.calls k = .standings group filter) ∨
    ∃ catalog, t.calls k = .publish catalog

theorem AskOrPublish.register_play (only : t.AskOrPublish) (events : List Event) :
    (t.play events).service.repository.register = t.register := by
  induction events using List.reverseRecOn with
  | nil => rfl
  | append_singleton events event ih =>
    cases event with
    | turn k => exact ((t.turn_play events k).register_eq (only k)).trans ih
    | expire gone =>
      rw [play_concat]
      exact ih

/-! ## A slow call -/

/-- **An answer as of the moment at which a call began.** -/
structure AnsweredAsOf (t : Traffic) (past events : List Event) (k : Nat) (group : String)
    (filter : CohortFilter) (given : Except GradingError Reply) : Prop where
  begins : past ++ [.turn k] <+: events
  waits : (t.play past).progress k = .waiting
  /-- The answer is worked out from the catalog in force. -/
  given : given = (Repository.standings t.platform (t.play past).service.live.catalog group
    filter.keeps { register := t.register }).1.map Reply.standings
  /-- The catalog is none from before a publication that was complete while the call waited. -/
  current : ∀ i catalog, t.calls i = .publish catalog → ∀ complete, complete <+: events →
    (t.play complete).progress i ≠ .waiting → (t.play complete).progress k = .waiting →
      ∀ old, old <+: events → (t.play old).progress i = .waiting →
        (t.play old).service.live.number < (t.play past).service.live.number

/-- **Every answer is worked out from the catalog that was in force when the call began.** While
calls for standings and publications take turns in any order, and what is kept expires at any time,
every call for standings is answered with the standings, or the error in place of them, that the
group has by the catalog in force at the first turn of the call. -/
theorem exists_answeredAsOf (only : t.AskOrPublish) {k : Nat} {group : String}
    {filter : CohortFilter} (call : t.calls k = .standings group filter)
    {given : Except GradingError Reply} (answered : (t.play events).progress k = .answered given) :
    ∃ past, t.AnsweredAsOf past events k group filter given := by
  obtain ⟨publication, standings, ⟨past, begins, waits, rfl⟩, ⟨seen, -, rfl⟩, same⟩ :=
    ((t.traced_play events).calls k).answered call answered
  refine ⟨past, begins, waits, ?_, ?_⟩
  · obtain ⟨log, run⟩ := Repository.gives_standings t.platform
      (t.play past).service.live.catalog group filter.keeps { register := t.register } rfl
    rw [same, run, only.register_play]
  · intro i catalog publishes complete before published waiting old earlier unpublished
    calc (t.play old).service.live.number
        < (t.play complete).service.live.number :=
          number_lt_of_published publishes unpublished
            (prefix_of_begun earlier before unpublished published) published
      _ ≤ (t.play past).service.live.number := number_le (prefix_of_waiting before begins waiting)

/-! ### A catalog that is withdrawn

The first call has worked out standings, the second publishes a catalog without courses, and then
the first keeps its standings. The third call begins only now, when there is no course any more. -/

def withdrawing : Traffic where
  platform := default
  catalog := .oneTask
  register := .oneStudent
  calls
    | 1 => .publish .empty
    | _ => .standings "2024" .all

def withdrawal : List Event :=
  [.turn 0, .turn 0, .turn 0, .turn 0, .turn 0, .turn 0, .turn 1, .turn 0, .turn 2, .turn 2]

theorem askOrPublish_withdrawing : withdrawing.AskOrPublish
  | 0 => .inl ⟨"2024", .all, rfl⟩
  | 1 => .inr ⟨.empty, rfl⟩
  | _ + 2 => .inl ⟨"2024", .all, rfl⟩

theorem exists_answeredAsOf_withdrawal :
    withdrawing.AskOrPublish ∧ withdrawing.calls 2 = .standings "2024" .all ∧
      (withdrawing.play withdrawal).progress 2 = .answered (.error (.notGradedYet "2024")) ∧
      ∃ past, withdrawing.AnsweredAsOf past withdrawal 2 "2024" .all
        (.error (.notGradedYet "2024")) :=
  ⟨askOrPublish_withdrawing, rfl, rfl, exists_answeredAsOf askOrPublish_withdrawing rfl rfl⟩

end Traffic
end Gradebook
