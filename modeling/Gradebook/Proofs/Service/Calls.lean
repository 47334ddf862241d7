/-
# Calls that can be interrupted

A service answers several requests at a time, and each of them comes further by steps that
nothing can interrupt. A request for standings

1. takes the publication in force;
2. looks for standings that are kept for it, and answers with those if there are any;
3. reads the students of the group, all pipelines, all flags that are claimed and all overrides,
   one kind at a time, and works out the standings;
4. keeps them and answers.

An override is stored or taken away in one step, and what is kept is cleared in another. A
catalog is published in one step. A call that takes all its turns before any other does what
the service does for it in one go (`Service.Call.reaches_perform`).
-/

import Gradebook.Proofs.Service.Steps
import Mathlib.Logic.Function.Iterate

namespace Gradebook
namespace Service

/-! ## Calls -/

/-- A request that takes turns with others. -/
inductive Call where
  | standings (group : String) (filter : CohortFilter)
  | setOverride (o : Override)
  | removeOverride (login taskId : String)
  | publish (catalog : Catalog)
deriving DecidableEq

/-- What a call that does not fail gives in the end. -/
inductive Reply where
  | standings (table : Standings)
  | stored
  | removed (found : Bool)
  | published (changed : Bool)
deriving DecidableEq

/-- The records that were read for standings so far. -/
inductive Batch where
  | nothing
  | students (students : List Student)
  | pipelines (students : List Student) (pipelines : List Pipeline)
  | flags (students : List Student) (pipelines : List Pipeline) (flags : List Flag)
deriving DecidableEq

/-- How far a call has come. -/
inductive Progress where
  | waiting
  /-- It has taken a publication. -/
  | chosen (publication : Publication)
  /-- No standings were kept, and it is reading records. -/
  | reading (publication : Publication) (course : Course) (batch : Batch)
  /-- It has worked out standings, which are not kept yet. -/
  | worked (publication : Publication) (issue : Issue)
  /-- It has changed an override, and what is kept is not cleared yet. -/
  | written
  | answered (given : Except GradingError Reply)

namespace Call

/-- What the service does for a call in one go. -/
def perform : Call → ServiceM Reply
  | standings group filter => return .standings (← Service.standings group filter).standings
  | setOverride o => do
    Service.setOverride o
    return .stored
  | removeOverride login taskId => return .removed (← Service.removeOverride login taskId)
  | publish catalog => return .published (← modifyGet (Service.publish catalog))

/-- Works out standings from all the records that were read. -/
def tabulate (group : String) (filter : CohortFilter) (publication : Publication)
    (course : Course) (students : List Student) (pipelines : List Pipeline) (flags : List Flag)
    (overrides : List Override) : ServiceM Progress := do
  let s ← get
  let table ← Repository.tabulate s.platform group course (students.filter filter.keeps)
    pipelines flags overrides
  modify fun s => { s with issued := s.issued + 1 }
  return .worked publication ⟨s.issued, table⟩

/-- Reads the next kind of records, and works out the standings after the last. -/
def readOn (group : String) (filter : CohortFilter) (publication : Publication)
    (course : Course) : Batch → ServiceM Progress
  | .nothing => do
    let students ← ask (Repository.read .listGroupStudents (·.groupStudents group))
    return .reading publication course (.students students)
  | .students students => do
    let pipelines ← ask (Repository.read .listAllPipelines (·.pipelines))
    return .reading publication course (.pipelines students pipelines)
  | .pipelines students pipelines => do
    let flags ← ask (Repository.read .listClaimedFlags (·.claimedFlags))
    return .reading publication course (.flags students pipelines flags)
  | .flags students pipelines flags => do
    let overrides ← ask (Repository.read .listAllOverrides (·.overrides))
    tabulate group filter publication course students pipelines flags overrides

/-- **The next step of a call** and how far it comes with it. -/
def step : Call → Progress → ServiceM Progress
  | standings _ _, .waiting => return .chosen (← get).live
  | standings group filter, .chosen publication => do
    match (← get).cache.find? group filter publication.number with
    | some issue => return .answered (.ok (.standings issue.standings))
    | none => return .reading publication (← publication.catalog.course group) .nothing
  | standings group filter, .reading publication course batch =>
    readOn group filter publication course batch
  | standings group filter, .worked publication issue => do
    modify (keep publication group filter issue)
    return .answered (.ok (.standings issue.standings))
  | setOverride o, .waiting => do
    if Text.isBlankText o.login || Text.isBlankText o.taskId then
      throw (.invalidOverride "login and task_id are required")
    ask (Repository.update .setOverride fun register => ((), register.setOverride o))
    return .written
  | setOverride _, .written => do
    modify clear
    return .answered (.ok .stored)
  | removeOverride login taskId, .waiting => do
    let removed ← ask (Repository.update .removeOverride fun register =>
      (register.hasOverride login taskId, register.removeOverride login taskId))
    return if removed then .written else .answered (.ok (.removed false))
  | removeOverride _ _, .written => do
    modify clear
    return .answered (.ok (.removed true))
  | publish catalog, .waiting =>
    return .answered (.ok (.published (← modifyGet (Service.publish catalog))))
  | _, progress => return progress

/-- **A turn of a call.** A step that fails ends the call with its error. -/
def advance (call : Call) (s : Service × Progress) : Service × Progress :=
  match call.step s.2 s.1 with
  | (.ok progress, after) => (after, progress)
  | (.error e, after) => (after, .answered (.error e))

variable {call : Call} {s after : Service} {progress : Progress}

theorem advance_of_ok {next : Progress} (stepped : call.step progress s = (.ok next, after)) :
    call.advance (s, progress) = (after, next) := by
  rw [advance, stepped]

theorem advance_of_error {e : GradingError}
    (stepped : call.step progress s = (.error e, after)) :
    call.advance (s, progress) = (after, .answered (.error e)) := by
  rw [advance, stepped]

/-- A call that is answered stays so. -/
@[simp] theorem advance_answered (call : Call) (s : Service)
    (given : Except GradingError Reply) :
    call.advance (s, .answered given) = (s, .answered given) :=
  advance_of_ok (by cases call <;> rfl)

/-! ### Turns -/

section

variable {group : String} {filter : CohortFilter} {publication : Publication}

/-- Standings that are kept are the answer. -/
theorem advance_chosen_of_found {issue : Issue}
    (found : s.cache.find? group filter publication.number = some issue) :
    (standings group filter).advance (s, .chosen publication) =
      (s, .answered (.ok (.standings issue.standings))) := by
  refine advance_of_ok ?_
  rw [step, bind_apply_of_ok (get_apply s), found]
  rfl

theorem advance_chosen_of_unknown {e : GradingError}
    (missing : s.cache.find? group filter publication.number = none)
    (unknown : publication.catalog.course group = .error e) :
    (standings group filter).advance (s, .chosen publication) = (s, .answered (.error e)) := by
  refine advance_of_error ?_
  rw [step, bind_apply_of_ok (get_apply s), missing]
  simp only [unknown]
  rfl

theorem advance_chosen_of_known {course : Course}
    (missing : s.cache.find? group filter publication.number = none)
    (known : publication.catalog.course group = .ok course) :
    (standings group filter).advance (s, .chosen publication) =
      (s, .reading publication course .nothing) := by
  refine advance_of_ok ?_
  rw [step, bind_apply_of_ok (get_apply s), missing]
  simp only [known]
  rfl

end

section

variable (group : String) (filter : CohortFilter) (publication : Publication) (course : Course)
  (students : List Student) (pipelines : List Pipeline) (flags : List Flag)

theorem advance_nothing (online : s.repository.Online) :
    (standings group filter).advance (s, .reading publication course .nothing) =
      (s.accessed .listGroupStudents s.repository.register,
        .reading publication course (.students (s.repository.register.groupStudents group))) :=
  advance_of_ok (bind_apply_of_ok (ask_read online _ _))

theorem advance_students (online : s.repository.Online) :
    (standings group filter).advance (s, .reading publication course (.students students)) =
      (s.accessed .listAllPipelines s.repository.register,
        .reading publication course (.pipelines students s.repository.register.pipelines)) :=
  advance_of_ok (bind_apply_of_ok (ask_read online _ _))

theorem advance_pipelines (online : s.repository.Online) :
    (standings group filter).advance
        (s, .reading publication course (.pipelines students pipelines)) =
      (s.accessed .listClaimedFlags s.repository.register,
        .reading publication course
          (.flags students pipelines s.repository.register.claimedFlags)) :=
  advance_of_ok (bind_apply_of_ok (ask_read online _ _))

/-- With the last read the standings are worked out. -/
theorem advance_flags (online : s.repository.Online) :
    (standings group filter).advance
        (s, .reading publication course (.flags students pipelines flags)) =
      match Repository.tabulate s.platform group course (students.filter filter.keeps) pipelines
        flags s.repository.register.overrides with
      | .ok table =>
        ({ s.accessed .listAllOverrides s.repository.register with issued := s.issued + 1 },
          .worked publication ⟨s.issued, table⟩)
      | .error e =>
        (s.accessed .listAllOverrides s.repository.register, .answered (.error e)) := by
  have read : (standings group filter).step
      (.reading publication course (.flags students pipelines flags)) s =
        tabulate group filter publication course students pipelines flags
          s.repository.register.overrides
          (s.accessed .listAllOverrides s.repository.register) :=
    bind_apply_of_ok (ask_read online .listAllOverrides (·.overrides))
  have started := read.trans (bind_apply_of_ok (get_apply _))
  cases worked : Repository.tabulate s.platform group course (students.filter filter.keeps)
    pipelines flags s.repository.register.overrides with
  | ok table =>
    exact advance_of_ok (started.trans
      (bind_apply_of_ok (s := s.accessed ..) (congrArg (·, _) worked)))
  | error e =>
    exact advance_of_error (started.trans
      (bind_apply_of_error (s := s.accessed ..) (congrArg (·, _) worked)))

end

theorem advance_setOverride_of_blank {o : Override}
    (blank : (Text.isBlankText o.login || Text.isBlankText o.taskId) = true) :
    (setOverride o).advance (s, .waiting) =
      (s, .answered (.error (.invalidOverride "login and task_id are required"))) := by
  refine advance_of_error ?_
  simp only [step, if_pos blank]
  rfl

theorem advance_setOverride_of_not_blank (online : s.repository.Online) {o : Override}
    (named : ¬ (Text.isBlankText o.login || Text.isBlankText o.taskId) = true) :
    (setOverride o).advance (s, .waiting) =
      (s.accessed .setOverride (s.repository.register.setOverride o), .written) := by
  refine advance_of_ok ?_
  simp only [step, if_neg named]
  exact bind_apply_of_ok (ask_update online .setOverride _)

/-- What is kept has to be cleared only if there was an override. -/
theorem advance_removeOverride (online : s.repository.Online) (login taskId : String) :
    (removeOverride login taskId).advance (s, .waiting) =
      (s.accessed .removeOverride (s.repository.register.removeOverride login taskId),
        if s.repository.register.hasOverride login taskId then .written
        else .answered (.ok (.removed false))) :=
  advance_of_ok (bind_apply_of_ok (ask_update online .removeOverride _))

/-! ### All turns at once -/

theorem ask_bind_of_ok {α β : Type} {q : Query α} {k : α → Query β} {a : α}
    (asked : ask q s = (.ok a, after)) : ask (q >>= k) s = ask (k a) after := by
  rw [ask] at asked
  rcases run : q s.repository with ⟨given, r⟩
  rw [run] at asked
  obtain ⟨rfl, rfl⟩ := Prod.mk.inj asked
  rw [ask, bind_apply_of_ok run]
  rfl

/-- A service after all reads for standings. -/
def readThrough (s : Service) : Service :=
  let r := s.repository.register
  (((s.accessed .listGroupStudents r).accessed .listAllPipelines r).accessed .listClaimedFlags
    r).accessed .listAllOverrides r

theorem ask_standings (online : s.repository.Online) (platform : Platform) {catalog : Catalog}
    {group : String} {course : Course} (known : catalog.course group = .ok course)
    (keeps : Student → Bool) :
    ask (Repository.standings platform catalog group keeps) s =
      (s.repository.register.standings platform catalog group keeps, readThrough s) := by
  have chosen : ask (liftM (catalog.course group) : Query Course) s = (.ok course, s) := by
    rw [known]
    rfl
  rw [Register.standings_of_known known]
  exact (ask_bind_of_ok chosen).trans <| (ask_bind_of_ok (ask_read online _ _)).trans <|
    (ask_bind_of_ok (ask_read (s := s.accessed ..) online _ _)).trans <|
    (ask_bind_of_ok (ask_read (s := (s.accessed ..).accessed ..) online _ _)).trans <|
    (ask_bind_of_ok (ask_read (s := ((s.accessed ..).accessed ..).accessed ..) online _ _)).trans
      rfl

/-- **Turns of a call that no other call interrupts.** -/
def Reaches (call : Call) (x y : Service × Progress) : Prop := ∃ n, call.advance^[n] x = y

theorem Reaches.refl (x : Service × Progress) : call.Reaches x x := ⟨0, rfl⟩

theorem Reaches.turn {x y z : Service × Progress} (turn : call.advance x = y)
    (rest : call.Reaches y z) : call.Reaches x z := by
  obtain ⟨n, reached⟩ := rest
  exact ⟨n + 1, by rw [Function.iterate_succ_apply, turn, reached]⟩

theorem Reaches.trans {x y z : Service × Progress} (first : call.Reaches x y)
    (rest : call.Reaches y z) : call.Reaches x z := by
  obtain ⟨m, rfl⟩ := first
  obtain ⟨n, rfl⟩ := rest
  exact ⟨n + m, Function.iterate_add_apply ..⟩

/-- All reads for standings, one after the other. -/
theorem reaches_worked (online : s.repository.Online) {group : String} (filter : CohortFilter)
    {publication : Publication} {course : Course}
    (known : publication.catalog.course group = .ok course) :
    (standings group filter).Reaches (s, .reading publication course .nothing)
      (match s.repository.register.standings s.platform publication.catalog group
        filter.keeps with
      | .ok table =>
        ({ readThrough s with issued := s.issued + 1 }, .worked publication ⟨s.issued, table⟩)
      | .error e => (readThrough s, .answered (.error e))) := by
  rw [Register.standings_of_known known]
  refine .turn (advance_nothing group filter _ _ online) ?_
  refine .turn (advance_students group filter _ _ _ (s := s.accessed ..) online) ?_
  refine .turn
    (advance_pipelines group filter _ _ _ _ (s := (s.accessed ..).accessed ..) online) ?_
  exact .turn
    (advance_flags group filter _ _ _ _ _ (s := ((s.accessed ..).accessed ..).accessed ..) online)
    (.refl _)

theorem reaches_standings (online : s.repository.Online) (group : String)
    (filter : CohortFilter) :
    (standings group filter).Reaches (s, .waiting)
      (((standings group filter).perform s).2,
        .answered ((standings group filter).perform s).1) := by
  refine .turn (advance_of_ok rfl : _ = (s, Progress.chosen s.live)) ?_
  cases looked : s.cache.find? group filter s.live.number with
  | some issue =>
    rw [perform, bind_apply_of_ok (standings_of_found looked)]
    exact .turn (advance_chosen_of_found looked) (.refl _)
  | none =>
    cases known : s.live.catalog.course group with
    | error e =>
      have asked : ask (Repository.standings s.platform s.live.catalog group filter.keeps) s =
          (.error e, s) := by
        rw [Repository.standings, known]
        rfl
      rw [perform, bind_apply_of_error (standings_of_error looked asked)]
      exact .turn (advance_chosen_of_unknown looked known) (.refl _)
    | ok course =>
      have asked := ask_standings online s.platform known filter.keeps
      have read := reaches_worked online filter known
      refine .turn (advance_chosen_of_known looked known) (read.trans ?_)
      cases made : s.repository.register.standings s.platform s.live.catalog group
        filter.keeps with
      | ok table =>
        rw [made] at asked
        rw [perform, bind_apply_of_ok (standings_of_ok looked asked)]
        exact .turn (advance_of_ok rfl) (.refl _)
      | error e =>
        rw [made] at asked
        rw [perform, bind_apply_of_error (standings_of_error looked asked)]
        exact .refl _

theorem reaches_setOverride (online : s.repository.Online) (o : Override) :
    (setOverride o).Reaches (s, .waiting)
      (((setOverride o).perform s).2, .answered ((setOverride o).perform s).1) := by
  by_cases blank : (Text.isBlankText o.login || Text.isBlankText o.taskId) = true
  · rw [perform, bind_apply_of_error (setOverride_of_blank blank)]
    exact .turn (advance_setOverride_of_blank blank) (.refl _)
  · rw [perform, bind_apply_of_ok (setOverride_of_not_blank online blank)]
    exact .turn (advance_setOverride_of_not_blank online blank)
      (.turn (advance_of_ok rfl) (.refl _))

theorem reaches_removeOverride (online : s.repository.Online) (login taskId : String) :
    (removeOverride login taskId).Reaches (s, .waiting)
      (((removeOverride login taskId).perform s).2,
        .answered ((removeOverride login taskId).perform s).1) := by
  rw [perform, bind_apply_of_ok (removeOverride_apply online login taskId)]
  refine .turn (advance_removeOverride online login taskId) ?_
  cases s.repository.register.hasOverride login taskId with
  | true => exact .turn (advance_of_ok rfl) (.refl _)
  | false => exact .refl _

/-- **A call that no other call interrupts** ends as the service does it in one go. -/
theorem reaches_perform (online : s.repository.Online) :
    ∀ call : Call, call.Reaches (s, .waiting) ((call.perform s).2, .answered (call.perform s).1)
  | standings group filter => reaches_standings online group filter
  | setOverride o => reaches_setOverride online o
  | removeOverride login taskId => reaches_removeOverride online login taskId
  | publish _ => .turn (advance_of_ok rfl) (.refl _)

end Call
end Service
end Gradebook
