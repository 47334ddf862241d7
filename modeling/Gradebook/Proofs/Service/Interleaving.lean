/-
# Calls that take turns

Any number of calls take turns in any order (`Traffic.run`), each turn being one step of a call.
`Service.Turn` lists what a single turn can do to the service and how far the call comes. While
calls take turns only overrides change in the register, so that the records which a call for
standings has read of the other kinds are those of the register whenever it comes to work the
standings out (`Traffic.Steady`).
-/

import Gradebook.Proofs.Service.Calls
import Mathlib.Data.List.Induction

namespace Gradebook
namespace Service

/-! ## Turns -/

/-- The publication that a call for standings holds. -/
def Progress.publication? : Progress → Option Publication
  | chosen publication | reading publication _ _ | worked publication _ => some publication
  | waiting | written | answered _ => none

/-- The records after the next read, unless that is the last one. -/
def Batch.next? (register : Register) (group : String) : Batch → Option Batch
  | nothing => some (students (register.groupStudents group))
  | students xs => some (pipelines xs register.pipelines)
  | pipelines xs ps => some (flags xs ps register.claimedFlags)
  | flags _ _ _ => none

/-- The records of a batch are those of a register. -/
def Batch.Holds (register : Register) (group : String) : Batch → Prop
  | nothing => True
  | students xs => xs = register.groupStudents group
  | pipelines xs ps => xs = register.groupStudents group ∧ ps = register.pipelines
  | flags xs ps fs =>
    xs = register.groupStudents group ∧ ps = register.pipelines ∧ fs = register.claimedFlags

/-- A read gives records of the register, whatever its overrides. -/
theorem Batch.Holds.next {register : Register} {group : String} {batch next : Batch}
    {overrides : List Override} (holds : batch.Holds register group)
    (more : batch.next? { register with overrides := overrides } group = some next) :
    next.Holds register group := by
  cases batch with
  | nothing =>
    cases more
    rfl
  | students xs =>
    cases more
    exact ⟨holds, rfl⟩
  | pipelines xs ps =>
    cases more
    exact ⟨holds.1, holds.2, rfl⟩
  | flags xs ps fs => cases more

/-- **What a turn can do** to a service, and how far the call comes with it. -/
inductive Turn (s : Service) : Call → Progress → Service → Progress → Prop
  | choose {group filter} : Turn s (.standings group filter) .waiting s (.chosen s.live)
  | find {group filter publication issue}
      (found : s.cache.find? group filter publication.number = some issue) :
      Turn s (.standings group filter) (.chosen publication) s
        (.answered (.ok (.standings issue.standings)))
  | unknown {group filter publication e}
      (missing : s.cache.find? group filter publication.number = none)
      (course : publication.catalog.course group = .error e) :
      Turn s (.standings group filter) (.chosen publication) s (.answered (.error e))
  | begin {group filter publication course}
      (missing : s.cache.find? group filter publication.number = none)
      (known : publication.catalog.course group = .ok course) :
      Turn s (.standings group filter) (.chosen publication) s
        (.reading publication course .nothing)
  | read {group filter publication course batch next access}
      (more : batch.next? s.repository.register group = some next) :
      Turn s (.standings group filter) (.reading publication course batch)
        (s.accessed access s.repository.register) (.reading publication course next)
  | work {group filter publication course students pipelines flags table}
      (worked : Repository.tabulate s.platform group course (students.filter filter.keeps)
        pipelines flags s.repository.register.overrides = .ok table) :
      Turn s (.standings group filter)
        (.reading publication course (.flags students pipelines flags))
        { s.accessed .listAllOverrides s.repository.register with issued := s.issued + 1 }
        (.worked publication ⟨s.issued, table⟩)
  | fail {group filter publication course students pipelines flags e}
      (failed : Repository.tabulate s.platform group course (students.filter filter.keeps)
        pipelines flags s.repository.register.overrides = .error e) :
      Turn s (.standings group filter)
        (.reading publication course (.flags students pipelines flags))
        (s.accessed .listAllOverrides s.repository.register) (.answered (.error e))
  | keep {group filter publication issue} :
      Turn s (.standings group filter) (.worked publication issue)
        (s.keep publication group filter issue) (.answered (.ok (.standings issue.standings)))
  | reject {o} (blank : (Text.isBlankText o.login || Text.isBlankText o.taskId) = true) :
      Turn s (.setOverride o) .waiting s
        (.answered (.error (.invalidOverride "login and task_id are required")))
  | store {o} (named : ¬ (Text.isBlankText o.login || Text.isBlankText o.taskId) = true) :
      Turn s (.setOverride o) .waiting
        (s.accessed .setOverride (s.repository.register.setOverride o)) .written
  | remove {login taskId} (held : s.repository.register.hasOverride login taskId = true) :
      Turn s (.removeOverride login taskId) .waiting
        (s.accessed .removeOverride (s.repository.register.removeOverride login taskId)) .written
  | miss {login taskId} (absent : s.repository.register.hasOverride login taskId = false) :
      Turn s (.removeOverride login taskId) .waiting
        (s.accessed .removeOverride s.repository.register) (.answered (.ok (.removed false)))
  | clearStored {o} : Turn s (.setOverride o) .written s.clear (.answered (.ok .stored))
  | clearRemoved {login taskId} :
      Turn s (.removeOverride login taskId) .written s.clear (.answered (.ok (.removed true)))
  | publish {catalog} :
      Turn s (.publish catalog) .waiting { s with live := s.live.next catalog }
        (.answered (.ok (.published (s.live.changedBy catalog))))
  | rest {call progress} (begun : progress ≠ .waiting) : Turn s call progress s progress

namespace Turn

variable {s : Service}

theorem standings (online : s.repository.Online) (group : String) (filter : CohortFilter) :
    ∀ progress, Turn s (.standings group filter) progress
      ((Call.standings group filter).advance (s, progress)).1
      ((Call.standings group filter).advance (s, progress)).2
  | .waiting => .choose
  | .chosen publication => by
    cases looked : s.cache.find? group filter publication.number with
    | some issue =>
      rw [Call.advance_chosen_of_found looked]
      exact .find looked
    | none =>
      cases course : publication.catalog.course group with
      | error e =>
        rw [Call.advance_chosen_of_unknown looked course]
        exact .unknown looked course
      | ok course =>
        rw [Call.advance_chosen_of_known looked course]
        exact .begin looked course
  | .reading publication course .nothing => by
    rw [Call.advance_nothing group filter _ _ online]
    exact .read rfl
  | .reading publication course (.students _) => by
    rw [Call.advance_students group filter _ _ _ online]
    exact .read rfl
  | .reading publication course (.pipelines _ _) => by
    rw [Call.advance_pipelines group filter _ _ _ _ online]
    exact .read rfl
  | .reading publication course (.flags students pipelines flags) => by
    rw [Call.advance_flags group filter _ _ _ _ _ online]
    cases worked : Repository.tabulate s.platform group course (students.filter filter.keeps)
      pipelines flags s.repository.register.overrides with
    | ok table => exact .work worked
    | error e => exact .fail worked
  | .worked _ _ => .keep
  | .written => .rest nofun
  | .answered _ => .rest nofun

theorem setOverride (online : s.repository.Online) (o : Override) :
    ∀ progress, Turn s (.setOverride o) progress
      ((Call.setOverride o).advance (s, progress)).1 ((Call.setOverride o).advance (s, progress)).2
  | .waiting => by
    by_cases blank : (Text.isBlankText o.login || Text.isBlankText o.taskId) = true
    · rw [Call.advance_setOverride_of_blank blank]
      exact .reject blank
    · rw [Call.advance_setOverride_of_not_blank online blank]
      exact .store blank
  | .written => .clearStored
  | .chosen _ => .rest nofun
  | .reading _ _ _ => .rest nofun
  | .worked _ _ => .rest nofun
  | .answered _ => .rest nofun

theorem removeOverride (online : s.repository.Online) (login taskId : String) :
    ∀ progress, Turn s (.removeOverride login taskId) progress
      ((Call.removeOverride login taskId).advance (s, progress)).1
      ((Call.removeOverride login taskId).advance (s, progress)).2
  | .waiting => by
    rw [Call.advance_removeOverride online]
    cases held : s.repository.register.hasOverride login taskId with
    | true => exact .remove held
    | false =>
      rw [Register.removeOverride_of_hasOverride_eq_false held]
      exact .miss held
  | .written => .clearRemoved
  | .chosen _ => .rest nofun
  | .reading _ _ _ => .rest nofun
  | .worked _ _ => .rest nofun
  | .answered _ => .rest nofun

/-- **Every turn of a call is one of those listed.** -/
theorem advance (online : s.repository.Online) (call : Call) (progress : Progress) :
    Turn s call progress (call.advance (s, progress)).1 (call.advance (s, progress)).2 := by
  cases call with
  | standings group filter => exact standings online group filter progress
  | setOverride o => exact setOverride online o progress
  | removeOverride login taskId => exact removeOverride online login taskId progress
  | publish catalog => cases progress <;> first | exact .publish | exact .rest nofun

/-- No turn takes a call back to its beginning. -/
theorem ne_waiting {call : Call} {progress next : Progress} {after : Service}
    (turn : Turn s call progress after next) : next ≠ .waiting := by
  cases turn with
  | rest begun => exact begun
  | _ => nofun

variable {call : Call} {progress next : Progress} {after : Service}

theorem online (turn : Turn s call progress after next) (online : s.repository.Online) :
    after.repository.Online := by
  cases turn <;> exact online

theorem platform (turn : Turn s call progress after next) : after.platform = s.platform := by
  cases turn <;> rfl

theorem keeps_cache (turn : Turn s call progress after next) :
    after.cache.keeps = s.cache.keeps := by
  cases turn with
  | keep => exact StandingsCache.keeps_keep ..
  | _ => rfl

theorem register (turn : Turn s call progress after next) :
    ∃ overrides,
      after.repository.register = { s.repository.register with overrides := overrides } := by
  cases turn <;> exact ⟨_, rfl⟩

/-- Calls for standings and publications leave the register as it is. -/
theorem register_eq (turn : Turn s call progress after next)
    (only : (∃ group filter, call = .standings group filter) ∨ ∃ catalog, call = .publish catalog) :
    after.repository.register = s.repository.register := by
  cases turn with
  | store | remove => simp at only
  | _ => rfl

/-- The publication in force changes by publishing alone. -/
theorem live (turn : Turn s call progress after next) (other : ∀ catalog, call ≠ .publish catalog) :
    after.live = s.live := by
  cases turn with
  | publish => exact absurd rfl (other _)
  | _ => rfl

/-- Publishing is the one turn that changes the publication in force. -/
theorem live_or_next (turn : Turn s call progress after next) :
    after.live = s.live ∨
      ∃ catalog, call = .publish catalog ∧ progress = .waiting ∧
        after.live = s.live.next catalog := by
  cases turn with
  | publish => exact .inr ⟨_, rfl, rfl, rfl⟩
  | _ => exact .inl rfl

theorem published {catalog : Catalog} (turn : Turn s (.publish catalog) .waiting after next) :
    after.live = s.live.next catalog := by
  cases turn with
  | publish => rfl
  | rest begun => exact absurd rfl begun

/-- How a call comes to hold a publication. -/
theorem publication? (turn : Turn s call progress after next) {publication : Publication}
    (holds : next.publication? = some publication) :
    progress.publication? = some publication ∨ progress = .waiting ∧ publication = s.live := by
  cases turn with
  | choose => exact .inr ⟨rfl, (Option.some.inj holds).symm⟩
  | begin | read | work => exact .inl holds
  | rest => exact .inl holds
  | _ => cases holds

/-- How standings come to be kept. -/
theorem find?_cache (turn : Turn s call progress after next) {group : String}
    {filter : CohortFilter} {number : Nat} {issue : Issue}
    (found : after.cache.find? group filter number = some issue) :
    s.cache.find? group filter number = some issue ∨
      call = .standings group filter ∧
        ∃ publication, progress = .worked publication issue ∧ publication.number = number := by
  cases turn with
  | @keep g f publication worked =>
    rcases StandingsCache.find?_keep_eq_some found with same | before
    · cases same
      exact .inr ⟨rfl, publication, rfl, rfl⟩
    · exact .inl before
  | clearStored | clearRemoved => cases found
  | _ => exact .inl found

/-- How an entry comes to be kept. -/
theorem mem_entries (turn : Turn s call progress after next) {e : StandingsCache.Entry}
    (mem : e ∈ after.cache.entries) :
    e ∈ s.cache.entries ∨
      call = .standings e.group e.filter ∧
        ∃ publication, progress = .worked publication e.issue ∧
          publication.number = e.publication := by
  cases turn with
  | @keep g f publication worked =>
    rcases StandingsCache.mem_entries_keep mem with rfl | before
    · exact .inr ⟨rfl, publication, rfl, rfl⟩
    · exact .inl before
  | clearStored | clearRemoved => cases mem
  | _ => exact .inl mem

/-- How a call comes to read records. -/
theorem reading {group : String} {filter : CohortFilter} {publication : Publication}
    {course : Course} {batch : Batch}
    (turn : Turn s (.standings group filter) progress after (.reading publication course batch)) :
    (progress = .chosen publication ∧ publication.catalog.course group = .ok course ∧
        batch = .nothing) ∨
      (∃ before, progress = .reading publication course before ∧
        before.next? s.repository.register group = some batch) ∨
      progress = .reading publication course batch := by
  cases turn with
  | begin _ known => exact .inl ⟨rfl, known, rfl⟩
  | read more => exact .inr (.inl ⟨_, rfl, more⟩)
  | rest => exact .inr (.inr rfl)

/-- How a call comes to have worked out standings. -/
theorem worked {group : String} {filter : CohortFilter} {publication : Publication}
    {issue : Issue}
    (turn : Turn s (.standings group filter) progress after (.worked publication issue)) :
    (∃ course students pipelines flags,
        progress = .reading publication course (.flags students pipelines flags) ∧
        Repository.tabulate s.platform group course (students.filter filter.keeps) pipelines flags
          s.repository.register.overrides = .ok issue.standings) ∨
      progress = .worked publication issue := by
  cases turn with
  | work worked => exact .inl ⟨_, _, _, _, rfl, worked⟩
  | rest => exact .inr rfl

/-- **How a call comes to answer with standings** or with an error. -/
theorem answered {group : String} {filter : CohortFilter} {given : Except GradingError Reply}
    (turn : Turn s (.standings group filter) progress after (.answered given)) :
    (∃ publication issue, progress = .chosen publication ∧
        s.cache.find? group filter publication.number = some issue ∧
        given = .ok (.standings issue.standings)) ∨
      (∃ publication e, progress = .chosen publication ∧
        publication.catalog.course group = .error e ∧ given = .error e) ∨
      (∃ publication course students pipelines flags e,
        progress = .reading publication course (.flags students pipelines flags) ∧
        Repository.tabulate s.platform group course (students.filter filter.keeps) pipelines flags
          s.repository.register.overrides = .error e ∧ given = .error e) ∨
      (∃ publication issue, progress = .worked publication issue ∧
        given = .ok (.standings issue.standings)) ∨
      progress = .answered given := by
  cases turn with
  | find found => exact .inl ⟨_, _, rfl, found, rfl⟩
  | unknown _ course => exact .inr (.inl ⟨_, _, rfl, course, rfl⟩)
  | fail failed => exact .inr (.inr (.inl ⟨_, _, _, _, _, _, rfl, failed, rfl⟩))
  | keep => exact .inr (.inr (.inr (.inl ⟨_, _, rfl, rfl⟩)))
  | rest => exact .inr (.inr (.inr (.inr rfl)))

end Turn

/-! ## Traffic -/

/-- How far a service and all calls have come. -/
structure Moment where
  service : Service
  progress : Nat → Progress

end Service

open Service

/-- **Calls that take turns,** and what they find to begin with. -/
structure Traffic where
  platform : Platform
  catalog : Catalog
  register : Register
  /-- The calls by their numbers. -/
  calls : Nat → Call

namespace Traffic

variable (t : Traffic)

/-- All calls are waiting for a service that keeps standings and has none yet. -/
def start : Moment where
  service := Service.start t.platform true t.catalog t.register
  progress _ := .waiting

/-- A turn of a call. -/
def turn (m : Moment) (k : Nat) : Moment :=
  let (service, progress) := (t.calls k).advance (m.service, m.progress k)
  { service := service, progress := fun n => if n = k then progress else m.progress n }

/-- **The moment after turns of calls,** which are given by their numbers. -/
def run (turns : List Nat) : Moment := turns.foldl t.turn t.start

theorem run_concat (turns : List Nat) (k : Nat) :
    t.run (turns ++ [k]) = t.turn (t.run turns) k := by
  rw [run, List.foldl_append]
  rfl

variable {t}

theorem progress_turn_of_ne {m : Moment} {k n : Nat} (ne : n ≠ k) :
    (t.turn m k).progress n = m.progress n :=
  if_neg ne

theorem progress_run_concat_of_ne {k n : Nat} (ne : n ≠ k) (turns : List Nat) :
    (t.run (turns ++ [k])).progress n = (t.run turns).progress n := by
  rw [run_concat, progress_turn_of_ne ne]

theorem run_concat_of_advance {turns : List Nat} {k : Nat} {after : Service} {next : Progress}
    (advanced : (t.calls k).advance ((t.run turns).service, (t.run turns).progress k) =
      (after, next)) :
    (t.run (turns ++ [k])).service = after ∧ (t.run (turns ++ [k])).progress k = next := by
  rw [run_concat, turn, advanced]
  exact ⟨rfl, if_pos rfl⟩

variable (t) in
theorem advance_turn {m : Moment} (online : m.service.repository.Online) (k : Nat) :
    Turn m.service (t.calls k) (m.progress k) (t.turn m k).service ((t.turn m k).progress k) := by
  rw [show (t.turn m k).progress k = ((t.calls k).advance (m.service, m.progress k)).2 from
    if_pos rfl]
  exact .advance online (t.calls k) (m.progress k)

/-! ### What stays as it is -/

/-- **Nothing but overrides changes in the register,** and what a call has read is in it. -/
structure Steady (t : Traffic) (m : Moment) : Prop where
  online : m.service.repository.Online
  platform : m.service.platform = t.platform
  keeps : m.service.cache.keeps = true
  register : ∃ overrides, m.service.repository.register = { t.register with overrides := overrides }
  reading : ∀ {k group filter publication course batch}, t.calls k = .standings group filter →
    m.progress k = .reading publication course batch →
      publication.catalog.course group = .ok course ∧ batch.Holds t.register group

namespace Steady

theorem start (t : Traffic) : t.Steady t.start where
  online := rfl
  platform := rfl
  keeps := rfl
  register := ⟨_, rfl⟩
  reading _ reading := nomatch reading

theorem turn {m : Moment} (steady : t.Steady m) (k : Nat) : t.Steady (t.turn m k) := by
  have turn := t.advance_turn steady.online k
  refine
    { online := turn.online steady.online
      platform := turn.platform.trans steady.platform
      keeps := turn.keeps_cache.trans steady.keeps
      register := ?_
      reading := ?_ }
  · obtain ⟨before, was⟩ := steady.register
    obtain ⟨overrides, is⟩ := turn.register
    exact ⟨overrides, is.trans (by rw [was])⟩
  · intro n group filter publication course batch call now
    by_cases same : n = k
    · subst same
      rw [now, call] at turn
      rcases turn.reading with ⟨-, known, rfl⟩ | ⟨before, was, more⟩ | was
      · exact ⟨known, trivial⟩
      · obtain ⟨known, holds⟩ := steady.reading call was
        obtain ⟨overrides, register⟩ := steady.register
        rw [register] at more
        exact ⟨known, holds.next more⟩
      · exact steady.reading call was
    · rw [progress_turn_of_ne same] at now
      exact steady.reading call now

/-- **Standings that a call works out are those of the moment** in which it reads overrides,
for the publication that it holds. -/
theorem tabulate_eq {m : Moment} (steady : t.Steady m) {group : String} (filter : CohortFilter)
    {publication : Publication} {course : Course} {students : List Student}
    {pipelines : List Pipeline} {flags : List Flag}
    (known : publication.catalog.course group = .ok course)
    (holds : (Batch.flags students pipelines flags).Holds t.register group) :
    Repository.tabulate m.service.platform group course (students.filter filter.keeps) pipelines
        flags m.service.repository.register.overrides =
      m.service.repository.register.standings m.service.platform publication.catalog group
        filter.keeps := by
  obtain ⟨overrides, register⟩ := steady.register
  obtain ⟨rfl, rfl, rfl⟩ := holds
  rw [register, Register.standings_of_known known]
  rfl

end Steady

theorem steady_run (t : Traffic) (turns : List Nat) : t.Steady (t.run turns) := by
  induction turns using List.reverseRecOn with
  | nil => exact .start t
  | append_singleton turns k ih =>
    rw [run_concat]
    exact ih.turn k

/-- **Every turn of a run is one of those listed.** -/
theorem turn_run (t : Traffic) (turns : List Nat) (k : Nat) :
    Turn (t.run turns).service (t.calls k) ((t.run turns).progress k)
      (t.run (turns ++ [k])).service ((t.run (turns ++ [k])).progress k) := by
  rw [run_concat]
  exact t.advance_turn (t.steady_run turns).online k

end Traffic
end Gradebook
