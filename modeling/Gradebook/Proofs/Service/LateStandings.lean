/-
# Standings that come too late

What is kept is cleared when an override was changed, but a call that had read the overrides
before may still keep its standings afterwards. A call that comes later is then answered with
standings that do not show the change, though the change was complete before it began.

While no catalog is published this is the only way. Once a change is complete, all calls for the
standings of a group that come later are answered as at a moment that includes the change
(`Traffic.Reflects`) if and only if no standings of that group are kept or about to be kept that
are those of no such moment (`Traffic.Outdated`).
-/

import Gradebook.Proofs.Repository.Batch
import Gradebook.Proofs.Service.Interleaving

namespace Gradebook

open Service

namespace Traffic

variable (t : Traffic)

/-- No catalog is published. -/
def Settled : Prop := ∀ k catalog, t.calls k ≠ .publish catalog

/-- Some standings, or the error in place of them, are those of a moment at which a call had
taken its first step. -/
def SeenSince (i : Nat) (turns : List Nat) (group : String) (filter : CohortFilter)
    (given : Except GradingError Standings) : Prop :=
  ∃ past, past <+: turns ∧ (t.run past).progress i ≠ .waiting ∧
    (t.run past).service.fresh group filter = given

/-- **Whatever turns follow,** if a call for standings is answered then with the standings of a
moment at which another call had taken its first step. -/
def Reflects (i j : Nat) (turns : List Nat) (group : String) (filter : CohortFilter) : Prop :=
  ∀ more given, (t.run (turns ++ more)).progress j = .answered given →
    ∃ standings, t.SeenSince i (turns ++ more) group filter standings ∧
      given = standings.map Reply.standings

/-- Standings that are kept, or that a call has worked out and is about to keep. -/
def Pending (turns : List Nat) (group : String) (filter : CohortFilter) (issue : Issue) : Prop :=
  (t.run turns).service.cache.find? group filter (t.run turns).service.live.number = some issue ∨
    ∃ k publication, t.calls k = .standings group filter ∧
      (t.run turns).progress k = .worked publication issue

/-- **Some standings are kept, or about to be kept,** that are not those of any moment since the
first step of a call. -/
def Outdated (i : Nat) (turns : List Nat) (group : String) (filter : CohortFilter) : Prop :=
  ∃ issue, t.Pending turns group filter issue ∧
    ¬ t.SeenSince i turns group filter (.ok issue.standings)

variable {t} {turns : List Nat} {i j : Nat} {group : String} {filter : CohortFilter}

/-! ## While no catalog is published -/

namespace Settled

/-- All calls for standings hold the one publication there is. -/
theorem live_run (settled : t.Settled) (turns : List Nat) :
    (t.run turns).service.live = ⟨0, t.catalog⟩ ∧
      ∀ k publication, ((t.run turns).progress k).publication? = some publication →
        publication = ⟨0, t.catalog⟩ := by
  induction turns using List.reverseRecOn with
  | nil => exact ⟨rfl, fun _ _ holds => nomatch holds⟩
  | append_singleton turns k ih =>
    obtain ⟨live, held⟩ := ih
    have turn := t.turn_run turns k
    refine ⟨(turn.live (settled k)).trans live, fun n publication holds => ?_⟩
    by_cases same : n = k
    · subst same
      rcases turn.publication? holds with before | ⟨-, now⟩
      · exact held n publication before
      · exact now.trans live
    · rw [progress_run_concat_of_ne same] at holds
      exact held n publication holds

theorem eq_live (settled : t.Settled) {k : Nat} {publication : Publication}
    (holds : ((t.run turns).progress k).publication? = some publication) :
    publication = (t.run turns).service.live :=
  ((settled.live_run turns).2 k publication holds).trans (settled.live_run turns).1.symm

/-- What a call has read gives the standings of the moment. -/
theorem tabulate_eq_fresh (settled : t.Settled) {k : Nat} {publication : Publication}
    {course : Course} {students : List Student} {pipelines : List Pipeline} {flags : List Flag}
    (call : t.calls k = .standings group filter)
    (reading : (t.run turns).progress k =
      .reading publication course (.flags students pipelines flags)) :
    Repository.tabulate (t.run turns).service.platform group course
        (students.filter filter.keeps) pipelines flags
        (t.run turns).service.repository.register.overrides =
      (t.run turns).service.fresh group filter := by
  have steady := t.steady_run turns
  obtain ⟨known, holds⟩ := steady.reading call reading
  have live : publication = (t.run turns).service.live := settled.eq_live (by rw [reading]; rfl)
  rw [steady.tabulate_eq filter known holds, fresh_eq_ledger_standings steady.online, live]
  rfl

theorem fresh_eq_error (settled : t.Settled) {k : Nat} {publication : Publication}
    {e : GradingError} (chosen : (t.run turns).progress k = .chosen publication)
    (unknown : publication.catalog.course group = .error e) :
    (t.run turns).service.fresh group filter = .error e := by
  have live : publication = (t.run turns).service.live := settled.eq_live (by rw [chosen]; rfl)
  rw [live] at unknown
  rw [fresh_eq_ledger_standings (t.steady_run turns).online]
  exact Register.standings_of_unknown unknown

end Settled

/-! ## Moments since a first step -/

theorem SeenSince.append {given : Except GradingError Standings}
    (seen : t.SeenSince i turns group filter given) (more : List Nat) :
    t.SeenSince i (turns ++ more) group filter given := by
  obtain ⟨past, earlier, begun, fresh⟩ := seen
  exact ⟨past, earlier.trans (List.prefix_append _ _), begun, fresh⟩

theorem seenSince_fresh (begun : (t.run turns).progress i ≠ .waiting) :
    t.SeenSince i turns group filter ((t.run turns).service.fresh group filter) :=
  ⟨turns, List.prefix_rfl, begun, rfl⟩

theorem progress_ne_waiting_concat (begun : (t.run turns).progress i ≠ .waiting) (k : Nat) :
    (t.run (turns ++ [k])).progress i ≠ .waiting := by
  by_cases same : i = k
  · subst same
    exact (t.turn_run turns i).ne_waiting
  · rwa [progress_run_concat_of_ne same]

theorem progress_ne_waiting_append (begun : (t.run turns).progress i ≠ .waiting)
    (more : List Nat) : (t.run (turns ++ more)).progress i ≠ .waiting := by
  induction more using List.reverseRecOn with
  | nil => rwa [List.append_nil]
  | append_singleton more k ih =>
    rw [← List.append_assoc]
    exact progress_ne_waiting_concat ih k

theorem not_seenSince_of_waiting {given : Except GradingError Standings}
    (waits : (t.run turns).progress i = .waiting) : ¬ t.SeenSince i turns group filter given := by
  rintro ⟨past, ⟨more, rfl⟩, begun, -⟩
  exact progress_ne_waiting_append begun more waits

theorem SeenSince.fresh_or_concat {given : Except GradingError Standings} {k : Nat}
    (seen : t.SeenSince i (turns ++ [k]) group filter given) :
    (t.run (turns ++ [k])).service.fresh group filter = given ∨
      t.SeenSince i turns group filter given := by
  obtain ⟨past, earlier, begun, fresh⟩ := seen
  rcases List.prefix_concat_iff.1 earlier with rfl | earlier
  · exact .inl fresh
  · exact .inr ⟨past, earlier, begun, fresh⟩

/-- A turn that leaves the standings of the moment as they are shows nothing new. -/
theorem SeenSince.of_concat {given : Except GradingError Standings} {k : Nat}
    (begun : (t.run turns).progress i ≠ .waiting)
    (same : (t.run (turns ++ [k])).service.fresh group filter =
      (t.run turns).service.fresh group filter)
    (seen : t.SeenSince i (turns ++ [k]) group filter given) :
    t.SeenSince i turns group filter given := by
  rcases seen.fresh_or_concat with now | before
  · rw [← now, same]
    exact seenSince_fresh begun
  · exact before

/-! ## Nothing outdated -/

/-- **Nothing outdated** is kept, about to be kept or given as an answer. -/
structure Current (t : Traffic) (i j : Nat) (turns : List Nat) (group : String)
    (filter : CohortFilter) : Prop where
  begun : (t.run turns).progress i ≠ .waiting
  pending : ∀ issue, t.Pending turns group filter issue →
    t.SeenSince i turns group filter (.ok issue.standings)
  answered : ∀ given, (t.run turns).progress j = .answered given →
    ∃ standings, t.SeenSince i turns group filter standings ∧
      given = standings.map Reply.standings

namespace Current

/-- Standings that become pending with a turn are those of the moment. -/
theorem pending_concat (current : t.Current i j turns group filter) (settled : t.Settled) (k : Nat)
    {issue : Issue} (pending : t.Pending (turns ++ [k]) group filter issue) :
    t.SeenSince i turns group filter (.ok issue.standings) := by
  have turn := t.turn_run turns k
  rcases pending with found | ⟨n, publication, call, worked⟩
  · rw [turn.live (settled k)] at found
    rcases turn.find?_cache found with before | ⟨call, publication, worked, -⟩
    · exact current.pending issue (.inl before)
    · exact current.pending issue (.inr ⟨k, publication, call, worked⟩)
  · by_cases same : n = k
    · subst same
      rw [call, worked] at turn
      rcases turn.worked with ⟨course, students, pipelines, flags, reading, made⟩ | before
      · rw [settled.tabulate_eq_fresh call reading] at made
        exact made ▸ seenSince_fresh current.begun
      · exact current.pending issue (.inr ⟨n, publication, call, before⟩)
    · rw [progress_run_concat_of_ne same] at worked
      exact current.pending issue (.inr ⟨n, publication, call, worked⟩)

/-- An answer that is given with a turn is what was pending, or that of the moment. -/
theorem answered_concat (current : t.Current i j turns group filter) (settled : t.Settled)
    (call : t.calls j = .standings group filter) (k : Nat) {given : Except GradingError Reply}
    (answered : (t.run (turns ++ [k])).progress j = .answered given) :
    ∃ standings, t.SeenSince i turns group filter standings ∧
      given = standings.map Reply.standings := by
  by_cases same : j = k
  · subst same
    have turn := t.turn_run turns j
    rw [call, answered] at turn
    -- It is kept standings, the lack of a course, a failure, its own standings, or the answer
    -- that it already had.
    rcases turn.answered with ⟨publication, issue, chosen, found, rfl⟩ |
      ⟨publication, e, chosen, unknown, rfl⟩ |
      ⟨publication, course, students, pipelines, flags, e, reading, failed, rfl⟩ |
      ⟨publication, issue, worked, rfl⟩ | before
    · have live : publication = (t.run turns).service.live :=
        settled.eq_live (by rw [chosen]; rfl)
      rw [live] at found
      exact ⟨_, current.pending issue (.inl found), rfl⟩
    · exact ⟨.error e, settled.fresh_eq_error chosen unknown ▸ seenSince_fresh current.begun, rfl⟩
    · rw [settled.tabulate_eq_fresh call reading] at failed
      exact ⟨.error e, failed ▸ seenSince_fresh current.begun, rfl⟩
    · exact ⟨_, current.pending issue (.inr ⟨j, publication, call, worked⟩), rfl⟩
    · exact current.answered given before
  · rw [progress_run_concat_of_ne same] at answered
    exact current.answered given answered

/-- **Nothing becomes outdated with a turn.** -/
theorem concat (current : t.Current i j turns group filter) (settled : t.Settled)
    (call : t.calls j = .standings group filter) (k : Nat) :
    t.Current i j (turns ++ [k]) group filter where
  begun := progress_ne_waiting_concat current.begun k
  pending _ pending := (current.pending_concat settled k pending).append [k]
  answered _ answered := by
    obtain ⟨standings, seen, given⟩ := current.answered_concat settled call k answered
    exact ⟨standings, seen.append [k], given⟩

theorem append (current : t.Current i j turns group filter) (settled : t.Settled)
    (call : t.calls j = .standings group filter) (more : List Nat) :
    t.Current i j (turns ++ more) group filter := by
  induction more using List.reverseRecOn with
  | nil => rwa [List.append_nil]
  | append_singleton more k ih =>
    rw [← List.append_assoc]
    exact ih.concat settled call k

end Current

/-! ## Something outdated -/

/-- What is kept is the answer to a call that begins. -/
theorem answered_of_found {issue : Issue} (call : t.calls j = .standings group filter)
    (waits : (t.run turns).progress j = .waiting)
    (found : (t.run turns).service.cache.find? group filter
      (t.run turns).service.live.number = some issue) :
    (t.run (turns ++ [j] ++ [j])).progress j = .answered (.ok (.standings issue.standings)) ∧
      (t.run (turns ++ [j])).service = (t.run turns).service ∧
      (t.run (turns ++ [j] ++ [j])).service = (t.run (turns ++ [j])).service := by
  have first : (t.calls j).advance ((t.run turns).service, (t.run turns).progress j) =
      ((t.run turns).service, .chosen (t.run turns).service.live) := by
    rw [call, waits]
    rfl
  obtain ⟨service, chosen⟩ := run_concat_of_advance first
  have second : (t.calls j).advance
      ((t.run (turns ++ [j])).service, (t.run (turns ++ [j])).progress j) =
        ((t.run (turns ++ [j])).service, .answered (.ok (.standings issue.standings))) := by
    rw [call, chosen, service]
    exact Call.advance_chosen_of_found found
  obtain ⟨service', answered⟩ := run_concat_of_advance second
  exact ⟨answered, service, service'⟩

theorem not_reflects_of_found {issue : Issue} (call : t.calls j = .standings group filter)
    (begun : (t.run turns).progress i ≠ .waiting) (waits : (t.run turns).progress j = .waiting)
    (found : (t.run turns).service.cache.find? group filter
      (t.run turns).service.live.number = some issue)
    (unseen : ¬ t.SeenSince i turns group filter (.ok issue.standings)) :
    ¬ t.Reflects i j turns group filter := by
  intro reflects
  obtain ⟨answered, service, service'⟩ := answered_of_found call waits found
  rw [List.append_assoc] at answered
  obtain ⟨standings, seen, given⟩ := reflects [j, j] _ answered
  have shown : standings = .ok issue.standings := by
    cases standings with
    | ok table =>
      cases given
      rfl
    | error e => cases given
  rw [shown, show turns ++ [j, j] = turns ++ [j] ++ [j] by simp] at seen
  exact unseen <| .of_concat begun (by rw [service]) <|
    seen.of_concat (progress_ne_waiting_concat begun j) (by rw [service'])

/-- **Outdated standings that are pending come to be an answer.** -/
theorem not_reflects_of_outdated (settled : t.Settled) (call : t.calls j = .standings group filter)
    (begun : (t.run turns).progress i ≠ .waiting) (waits : (t.run turns).progress j = .waiting)
    (outdated : t.Outdated i turns group filter) : ¬ t.Reflects i j turns group filter := by
  obtain ⟨issue, found | ⟨k, publication, call', worked⟩, unseen⟩ := outdated
  · exact not_reflects_of_found call begun waits found unseen
  · -- The call that holds them keeps them first, and this leaves the register as it is.
    have other : j ≠ k := by
      rintro rfl
      rw [waits] at worked
      cases worked
    have live : publication = (t.run turns).service.live := settled.eq_live (by rw [worked]; rfl)
    have turn : (t.calls k).advance ((t.run turns).service, (t.run turns).progress k) =
        ((t.run turns).service.keep publication group filter issue,
          .answered (.ok (.standings issue.standings))) := by
      rw [call', worked]
      rfl
    obtain ⟨service, -⟩ := run_concat_of_advance turn
    have found : (t.run (turns ++ [k])).service.cache.find? group filter
        (t.run (turns ++ [k])).service.live.number = some issue := by
      rw [service, live]
      exact StandingsCache.find?_keep_self (t.steady_run turns).keeps ⟨group, filter, _, issue⟩
    have waits' : (t.run (turns ++ [k])).progress j = .waiting := by
      rwa [progress_run_concat_of_ne other]
    have unseen' : ¬ t.SeenSince i (turns ++ [k]) group filter (.ok issue.standings) :=
      fun seen => unseen (seen.of_concat begun (by rw [service]; rfl))
    intro reflects
    refine not_reflects_of_found call (progress_ne_waiting_concat begun k) waits' found unseen' ?_
    intro more given answered
    rw [List.append_assoc] at answered ⊢
    exact reflects ([k] ++ more) given answered

/-! ## An override that is overtaken

The first call has worked out standings, the second stores an override and clears what is kept,
and only then does the first keep its standings. -/

def overtaking : Traffic where
  platform := default
  catalog := .oneTask
  register := .oneStudent
  calls
    | 1 => .setOverride ⟨"login", "sum", 7, .success⟩
    | _ => .standings "2024" .all

theorem settled_overtaking : overtaking.Settled
  | 0, _ => nofun
  | 1, _ => nofun
  | _ + 2, _ => nofun

theorem outdated_overtaking : overtaking.Outdated 1 [0, 0, 0, 0, 0, 0, 1, 1] "2024" .all := by
  obtain ⟨publication, issue, worked, made⟩ : ∃ publication issue,
      (overtaking.run [0, 0, 0, 0, 0, 0, 1, 1]).progress 0 = .worked publication issue ∧
        (overtaking.run [0, 0, 0, 0, 0]).service.fresh "2024" .all = .ok issue.standings :=
    ⟨_, _, rfl, rfl⟩
  refine ⟨issue, .inr ⟨0, publication, rfl, worked⟩, fun seen => ?_⟩
  rw [← made] at seen
  have late : overtaking.SeenSince 1 ([0, 0, 0, 0, 0, 0, 1] ++ [1]) "2024" .all _ := seen
  rcases late.fresh_or_concat with now | before
  · exact absurd now (by decide +kernel)
  · have early : overtaking.SeenSince 1 ([0, 0, 0, 0, 0, 0] ++ [1]) "2024" .all _ := before
    rcases early.fresh_or_concat with now | before
    · exact absurd now (by decide +kernel)
    · exact not_seenSince_of_waiting rfl before

/-! ## The exact condition -/

/-- **A change that is complete shows in all later standings if and only if nothing outdated is
pending.** Let some calls have taken turns, call `i` among them be complete, and call `j` for
the standings of a group be waiting. While no catalog is published, `j` is answered with the
standings of a moment since the first step of `i`, whatever turns follow, exactly if no standings
of the group are kept or about to be kept that are of no such moment. -/
theorem reflects_iff_not_outdated (settled : t.Settled)
    (complete : ∃ given, (t.run turns).progress i = .answered given)
    (call : t.calls j = .standings group filter)
    (waits : (t.run turns).progress j = .waiting) :
    t.Reflects i j turns group filter ↔ ¬ t.Outdated i turns group filter := by
  obtain ⟨given, answered⟩ := complete
  have begun : (t.run turns).progress i ≠ .waiting := by
    rw [answered]
    nofun
  constructor
  · intro reflects outdated
    exact not_reflects_of_outdated settled call begun waits outdated reflects
  · intro nothing more given answered
    have current : t.Current i j turns group filter :=
      { begun := begun
        pending := fun issue pending => by_contra fun unseen => nothing ⟨issue, pending, unseen⟩
        answered := fun given answered => by
          rw [waits] at answered
          cases answered }
    exact (current.append settled call more).answered given answered

theorem reflects_iff_not_outdated_overtaking :
    overtaking.Settled ∧
      (∃ given, (overtaking.run [0, 0, 0, 0, 0, 0, 1, 1]).progress 1 = .answered given) ∧
      overtaking.calls 2 = .standings "2024" .all ∧
      (overtaking.run [0, 0, 0, 0, 0, 0, 1, 1]).progress 2 = .waiting ∧
      (overtaking.Reflects 1 2 [0, 0, 0, 0, 0, 0, 1, 1] "2024" .all ↔
        ¬ overtaking.Outdated 1 [0, 0, 0, 0, 0, 0, 1, 1] "2024" .all) :=
  ⟨settled_overtaking, ⟨_, rfl⟩, rfl, rfl,
    reflects_iff_not_outdated settled_overtaking ⟨_, rfl⟩ rfl rfl⟩

/-- **A change that is complete can be lost:** the third call begins after the override was
stored, and yet it can be answered with standings from before. -/
theorem not_reflects_overtaking :
    (∃ given, (overtaking.run [0, 0, 0, 0, 0, 0, 1, 1]).progress 1 = .answered given) ∧
      overtaking.calls 2 = .standings "2024" .all ∧
      (overtaking.run [0, 0, 0, 0, 0, 0, 1, 1]).progress 2 = .waiting ∧
      ¬ overtaking.Reflects 1 2 [0, 0, 0, 0, 0, 0, 1, 1] "2024" .all :=
  ⟨⟨_, rfl⟩, rfl, rfl,
    not_reflects_of_outdated settled_overtaking rfl nofun rfl outdated_overtaking⟩

end Traffic
end Gradebook
