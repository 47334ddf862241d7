/-
# The service

The service answers for the catalog in force and the records of its repository. A request for
standings has four steps: it takes the publication in force, looks for standings that are kept
for it, works them out if there are none, and keeps them. An override is first stored and then
all standings that are kept are cleared. Each step is a function of its own, so that the steps
of several requests can also be taken in turns.
-/

import Gradebook.Repository.Grading
import Gradebook.Service.Cache

namespace Gradebook

structure Service where
  platform : Platform
  /-- The publication in force. -/
  live : Publication
  cache : StandingsCache
  repository : Repository
  /-- How many standings have been worked out. -/
  issued : Nat := 0
deriving DecidableEq

/-- A computation with access to a service. -/
abbrev ServiceM (α : Type) : Type := ExceptT GradingError (StateM Service) α

namespace Service

/-- A service with a catalog and a register. -/
def start (platform : Platform) (keeps : Bool) (catalog : Catalog) (register : Register) :
    Service where
  platform := platform
  live := ⟨0, catalog⟩
  cache := { keeps := keeps }
  repository := { register := register }

/-! ## Steps -/

/-- Asks the repository. -/
def ask {α : Type} (query : Query α) : ServiceM α := fun s =>
  let (answer, repository) := query s.repository
  (answer, { s with repository := repository })

/-- Works out the standings of a group for a publication. -/
def workOut (publication : Publication) (group : String) (filter : CohortFilter) :
    ServiceM Issue := do
  let s ← get
  let standings ← ask (Repository.standings s.platform publication.catalog group filter.keeps)
  modify fun s => { s with issued := s.issued + 1 }
  return ⟨s.issued, standings⟩

/-- Keeps standings of a publication. -/
def keep (publication : Publication) (group : String) (filter : CohortFilter) (issue : Issue)
    (s : Service) : Service :=
  { s with cache := s.cache.keep ⟨group, filter, publication.number, issue⟩ }

/-- Clears all standings that are kept. -/
def clear (s : Service) : Service := { s with cache := s.cache.clear }

/-! ## Requests -/

/-- **The report of a student.** -/
def report (login : String) : ServiceM Report := do
  match ← ask (Repository.read .findStudent (·.student? login)) with
  | none => throw (.studentNotFound login)
  | some student =>
    let s ← get
    ask (Repository.report s.platform s.live.catalog student)

/-- **The standings of a group.** -/
def standings (group : String) (filter : CohortFilter) : ServiceM Issue := do
  let s ← get
  match s.cache.find? group filter s.live.number with
  | some issue => return issue
  | none =>
    let issue ← workOut s.live group filter
    modify (keep s.live group filter issue)
    return issue

/-- **Stores an override,** which has to name a student and a task. -/
def setOverride (o : Override) : ServiceM Unit := do
  if Text.isBlankText o.login || Text.isBlankText o.taskId then
    throw (.invalidOverride "login and task_id are required")
  ask (Repository.update .setOverride fun register => ((), register.setOverride o))
  modify clear

/-- **Takes an override away** and tells whether there was one. -/
def removeOverride (login taskId : String) : ServiceM Bool := do
  let removed ← ask (Repository.update .removeOverride fun register =>
    (register.hasOverride login taskId, register.removeOverride login taskId))
  if removed then modify clear
  return removed

/-! ## Publications -/

/-- **Publishes a catalog** and tells whether its content is new. -/
def publish (catalog : Catalog) (s : Service) : Bool × Service :=
  (s.live.changedBy catalog, { s with live := s.live.next catalog })

/-- **Publishes what a source gave.** If it gave no catalog, the publication in force stays. -/
def adopt (loaded : Except CourseError Catalog) (s : Service) :
    Except CourseError Bool × Service :=
  match loaded with
  | .ok catalog => (.ok (s.publish catalog).1, (s.publish catalog).2)
  | .error e => (.error e, s)

/-- Publishes the catalog of a list of sources. -/
def refresh {m : Type → Type} [Monad m] (fileText : String → m (Except String String))
    (sources : List CourseSource) (s : Service) : m (Except CourseError Bool × Service) := do
  return s.adopt (← (Catalog.load fileText sources).run)

end Service
end Gradebook
