/-
# What a service is asked and what it should answer

A service is asked one request after the other. What it should answer to them depends on its
ledger alone, that is on its platform, the publication in force and the register, and not on
what it keeps of earlier answers: `Ledger.respond` works everything out anew.
-/

import Gradebook.Proofs.Repository.Answers
import Gradebook.Service

namespace Gradebook
namespace Service

/-- What a service can be asked. A refresh comes with what its source gives. -/
inductive Request where
  | standings (group : String) (filter : CohortFilter)
  | report (login : String)
  | setOverride (o : Override)
  | removeOverride (login taskId : String)
  | publish (catalog : Catalog)
  | refresh (loaded : Except CourseError Catalog)

/-- What a service answers. The number of the computation that standings come from is no part
of the answer. -/
inductive Answer where
  | standings (given : Except GradingError Standings)
  | report (given : Except GradingError Report)
  | stored (given : Except GradingError Unit)
  | removed (given : Except GradingError Bool)
  | published (changed : Bool)
  | refreshed (changed : Except CourseError Bool)

/-- **The answer to a request** and the service after it. -/
def respond (s : Service) : Request → Answer × Service
  | .standings group filter =>
    let (given, after) := standings group filter s
    (.standings (given.map Issue.standings), after)
  | .report login =>
    let (given, after) := report login s
    (.report given, after)
  | .setOverride o =>
    let (given, after) := setOverride o s
    (.stored given, after)
  | .removeOverride login taskId =>
    let (given, after) := removeOverride login taskId s
    (.removed given, after)
  | .publish catalog =>
    let (changed, after) := s.publish catalog
    (.published changed, after)
  | .refresh loaded =>
    let (changed, after) := s.adopt loaded
    (.refreshed changed, after)

/-- The answers to requests that are made one after the other. -/
def answers (s : Service) : List Request → List Answer
  | [] => []
  | request :: rest => (s.respond request).1 :: (s.respond request).2.answers rest

/-- The service after requests. -/
def after (s : Service) (requests : List Request) : Service :=
  requests.foldl (fun s request => (s.respond request).2) s

/-- The standings of a group that are worked out from the repository at the moment. -/
def fresh (s : Service) (group : String) (filter : CohortFilter) :
    Except GradingError Standings :=
  (Repository.standings s.platform s.live.catalog group filter.keeps s.repository).1

/-! ## Ledgers -/

/-- What a service holds apart from what it keeps of earlier answers. -/
structure Ledger where
  platform : Platform
  /-- The publication in force. -/
  live : Publication
  register : Register

def ledger (s : Service) : Ledger := ⟨s.platform, s.live, s.repository.register⟩

namespace Ledger

variable (l : Ledger)

/-- The standings of a group, worked out from the register. -/
def standings (group : String) (filter : CohortFilter) : Except GradingError Standings :=
  l.register.standings l.platform l.live.catalog group filter.keeps

/-- The report of the first student of a login, worked out from the register. -/
def report (login : String) : Except GradingError Report :=
  match l.register.student? login with
  | some student => l.register.report l.platform l.live.catalog student
  | none => .error (.studentNotFound login)

/-- **The answer that a request should get** and the ledger after it. -/
def respond : Request → Answer × Ledger
  | .standings group filter => (.standings (l.standings group filter), l)
  | .report login => (.report (l.report login), l)
  | .setOverride o =>
    if Text.isBlankText o.login || Text.isBlankText o.taskId then
      (.stored (.error (.invalidOverride "login and task_id are required")), l)
    else
      (.stored (.ok ()), { l with register := l.register.setOverride o })
  | .removeOverride login taskId =>
    (.removed (.ok (l.register.hasOverride login taskId)),
      { l with register := l.register.removeOverride login taskId })
  | .publish catalog =>
    (.published (l.live.changedBy catalog), { l with live := l.live.next catalog })
  | .refresh (.ok catalog) =>
    (.refreshed (.ok (l.live.changedBy catalog)), { l with live := l.live.next catalog })
  | .refresh (.error e) => (.refreshed (.error e), l)

/-- The answers that requests should get, made one after the other. -/
def answers (l : Ledger) : List Request → List Answer
  | [] => []
  | request :: rest => (l.respond request).1 :: (l.respond request).2.answers rest

/-- The ledger after requests. -/
def after (requests : List Request) : Ledger :=
  requests.foldl (fun l request => (l.respond request).2) l

end Ledger

theorem fresh_eq_ledger_standings {s : Service} (online : s.repository.Online) (group : String)
    (filter : CohortFilter) : s.fresh group filter = s.ledger.standings group filter := by
  obtain ⟨log, run⟩ := Repository.gives_standings s.platform s.live.catalog group filter.keeps
    s.repository online
  rw [fresh, run]
  rfl

end Service

/-! ## Overrides that are not there -/

/-- Taking away an override that is not there changes nothing. -/
theorem Register.removeOverride_of_hasOverride_eq_false {r : Register} {login taskId : String}
    (absent : r.hasOverride login taskId = false) : r.removeOverride login taskId = r := by
  have others : ∀ o ∈ r.overrides, ¬ o.isFor login taskId = true := by
    simpa [hasOverride, override?] using absent
  rw [removeOverride, List.filter_eq_self.2 fun o mem => by simpa using others o mem]

end Gradebook
