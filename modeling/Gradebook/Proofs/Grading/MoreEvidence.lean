/-
# More evidence

A signal is no worse than another if it is a success no later wherever that is a success
(`NoWorse`). More flags give no worse a flag and more pipelines no worse a pipeline, since no record
beats the best, the best of fewer records included. The score follows the signal through the final
deadline, the policy, the retake floor and the override, so more evidence does not lower it
(`TaskTerms.scoreFrom_more`). The exception is a first pipeline for a task with a claimed flag: it
takes the place of the flag, whatever its verdict and time.
-/

import Gradebook.Proofs.Grading.BestEvidence
import Gradebook.Proofs.Grading.Decay

namespace Gradebook

theorem Score.max_le_max {a b : Score} (le : a ≤ b) (c : Score) : max a c ≤ max b c := by
  rw [UInt32.le_iff_toNat_le] at le ⊢
  rw [UInt32.toNat_max, UInt32.toNat_max]
  omega

/-! ## Signals that are no worse -/

/-- **No worse a signal than another:** where that is a success this is one too, and no later. -/
def NoWorse (signal' signal : Option Signal) : Prop :=
  ∀ x, signal = some x → x.status = .success →
    ∃ y, signal' = some y ∧ y.status = .success ∧ y.submittedAt.le x.submittedAt = true

theorem NoWorse.refl (signal : Option Signal) : NoWorse signal signal :=
  fun x found success => ⟨x, found, success, Std.ReflCmp.isLE_rfl⟩

namespace TaskTerms

variable {terms : TaskTerms}

/-- **Among some times a later submission is awarded no more.** -/
def FallsAmong (terms : TaskTerms) (times : List Instant) : Prop :=
  ∀ a ∈ times, ∀ b ∈ times, a.le b = true →
    terms.policy.award terms.task.nominalScore terms.deadline.instant b ≤
      terms.policy.award terms.task.nominalScore terms.deadline.instant a

instance (times : List Instant) : Decidable (terms.FallsAmong times) :=
  inferInstanceAs <| Decidable <| ∀ a ∈ times, ∀ b ∈ times, a.le b = true →
    terms.policy.award terms.task.nominalScore terms.deadline.instant b ≤
      terms.policy.award terms.task.nominalScore terms.deadline.instant a

/-- What is no later than what is within the final deadline is within it too. -/
theorem isPastCutoff_of_le {a b : Instant} (le : a.le b = true)
    (within : terms.isPastCutoff b = false) : terms.isPastCutoff a = false := by
  unfold isPastCutoff at *
  cases limit : terms.finalDeadline with
  | none => rfl
  | some cutoff =>
    rw [limit] at within
    by_contra past
    have past' := Instant.lt_of_lt_of_le (Bool.not_eq_false _ ▸ past) le
    exact Bool.noConfusion (past'.symm.trans within)

theorem earned_of_success {x : Signal} (success : x.status = .success)
    (within : terms.isPastCutoff x.submittedAt = false) : terms.earned (some x) =
      terms.policy.award terms.task.nominalScore terms.deadline.instant x.submittedAt := by
  simp [earned, success, within]

/-- **A signal that is no worse** earns no less. -/
theorem earned_le_earned {signal signal' : Option Signal} (noWorse : NoWorse signal' signal)
    {times : List Instant} (falls : terms.FallsAmong times)
    (mem : ∀ x, signal = some x → x.submittedAt ∈ times)
    (mem' : ∀ y, signal' = some y → y.submittedAt ∈ times) :
    terms.earned signal ≤ terms.earned signal' := by
  cases signal with
  | none => exact UInt32.zero_le
  | some x =>
    by_cases counts : x.status = .success ∧ terms.isPastCutoff x.submittedAt = false
    · obtain ⟨success, within⟩ := counts
      obtain ⟨y, rfl, success', le⟩ := noWorse x rfl success
      rw [earned_of_success success within,
        earned_of_success success' (isPastCutoff_of_le le within)]
      exact falls _ (mem' y rfl) _ (mem x rfl) le
    · have nothing : terms.earned (some x) = 0 := by
        unfold earned
        exact if_neg (by simpa using counts)
      rw [nothing]
      exact UInt32.zero_le

/-- **Neither the retake floor nor an override** turns the order around. -/
theorem score_evaluate_le {signal signal' : Option Signal}
    (le : terms.earned signal ≤ terms.earned signal') (retake : Bool)
    (override? : Option Override) :
    (evaluate terms signal retake override?).score ≤
      (evaluate terms signal' retake override?).score := by
  cases override? with
  | some record =>
    show record.score ≤ record.score
    exact UInt32.le_refl _
  | none =>
    show terms.score signal retake ≤ terms.score signal' retake
    rw [score, score]
    split
    · exact Score.max_le_max le _
    · exact le

end TaskTerms

/-! ## More records -/

theorem TaskStatus.ofVerdict_eq_success_iff {v : Verdict} :
    ofVerdict v = .success ↔ v = .success := by
  cases v <;> simp [ofVerdict]

/-- The times of records. -/
def recordTimes (pipelines : List Pipeline) (flags : List Flag) : List Instant :=
  pipelines.map (·.startedAt) ++ flags.map (·.createdAt)

namespace Evidence

variable {login taskId : String} {pipelines pipelines' : List Pipeline} {flags flags' : List Flag}

/-- A signal has the time of one of the records. -/
theorem submittedAt_mem_recordTimes {alternateProof : Bool} {x : Signal}
    (found : (gather login pipelines flags).signal? taskId alternateProof = some x) :
    x.submittedAt ∈ recordTimes pipelines flags := by
  have ofFlag : ∀ x, ((gather login pipelines flags).flag? taskId).map Flag.signal = some x →
      x.submittedAt ∈ recordTimes pipelines flags := by
    intro x found
    obtain ⟨f, held, rfl⟩ := Option.map_eq_some_iff.1 found
    exact List.mem_append_right _ (List.mem_map_of_mem (flag?_gather_eq_some_iff.1 held).mem)
  unfold signal? at found
  cases alternateProof with
  | true => exact ofFlag x found
  | false =>
    rcases Option.or_eq_some_iff.1 found with found | ⟨-, found⟩
    · obtain ⟨p, held, rfl⟩ := Option.map_eq_some_iff.1 found
      exact List.mem_append_left _ (List.mem_map_of_mem (pipeline?_gather_eq_some_iff.1 held).mem)
    · exact ofFlag x found

/-- **More flags** give a flag that is no worse. -/
theorem noWorse_flag? (more : flags ⊆ flags') :
    NoWorse (((gather login pipelines' flags').flag? taskId).map Flag.signal)
      (((gather login pipelines flags).flag? taskId).map Flag.signal) := by
  intro x found success
  obtain ⟨f, held, rfl⟩ := Option.map_eq_some_iff.1 found
  have first := flag?_gather_eq_some_iff.1 held
  have kept := first.1
  have mem : f ∈ flags' := more first.mem
  have some := ((reconciled_gather login pipelines' flags').hasFlag taskId).2 ⟨f, mem, kept⟩
  obtain ⟨f', held'⟩ := Option.isSome_iff_exists.1 some
  have best := (flag?_gather_eq_some_iff.1 held').2.1 f mem kept
  refine ⟨f'.signal, Option.map_eq_some_iff.2 ⟨f', held', rfl⟩, rfl, ?_⟩
  exact Instant.le_of_lt_eq_false (Bool.eq_false_iff.2 fun less => best (.inl less))

/-- **More pipelines** give a pipeline that is no worse. -/
theorem noWorse_pipeline? (more : pipelines ⊆ pipelines') :
    NoWorse (((gather login pipelines' flags').pipeline? taskId).map Pipeline.signal)
      (((gather login pipelines flags).pipeline? taskId).map Pipeline.signal) := by
  intro x found success
  obtain ⟨p, held, rfl⟩ := Option.map_eq_some_iff.1 found
  have first := pipeline?_gather_eq_some_iff.1 held
  have kept := first.1
  have mem : p ∈ pipelines' := more first.mem
  have some := ((reconciled_gather login pipelines' flags').hasPipeline taskId).2 ⟨p, mem, kept⟩
  obtain ⟨p', held'⟩ := Option.isSome_iff_exists.1 some
  have best := (pipeline?_gather_eq_some_iff.1 held').2.1 p mem kept
  have verdict : p.verdict = .success := TaskStatus.ofVerdict_eq_success_iff.1 success
  have verdict' : p'.verdict = .success := by
    by_contra other
    have lower : p'.verdict.place < p.verdict.place := by
      rw [verdict]
      cases place : p'.verdict <;> first | exact absurd place other | decide
    exact best (.inl lower)
  refine ⟨p'.signal, Option.map_eq_some_iff.2 ⟨p', held', rfl⟩,
    TaskStatus.ofVerdict_eq_success_iff.2 verdict', ?_⟩
  refine Instant.le_of_lt_eq_false (Bool.eq_false_iff.2 fun less => best (.inr ⟨?_, .inl less⟩))
  rw [verdict, verdict']

/-- Signals with more flags. -/
theorem noWorse_signal?_of_flags (more : flags ⊆ flags') (alternateProof : Bool) :
    NoWorse ((gather login pipelines flags').signal? taskId alternateProof)
      ((gather login pipelines flags).signal? taskId alternateProof) := by
  have flag : NoWorse (((gather login pipelines flags').flag? taskId).map Flag.signal)
      (((gather login pipelines flags).flag? taskId).map Flag.signal) := noWorse_flag? more
  cases alternateProof with
  | true => exact flag
  | false =>
    have reconciled := reconciled_gather login pipelines flags
    have reconciled' := reconciled_gather login pipelines flags'
    cases held : (gather login pipelines flags).pipeline? taskId with
    | some p =>
      rw [reconciled.direct taskId p held, reconciled'.direct taskId p held]
      exact .refl _
    | none =>
      rw [reconciled.fallback taskId held, reconciled'.fallback taskId held]
      exact flag

/-- **Signals with more pipelines,** unless the first pipeline takes the place of a flag. -/
theorem noWorse_signal?_of_pipelines (more : pipelines ⊆ pipelines') {alternateProof : Bool}
    (keeps : alternateProof = true ∨ (∃ p ∈ pipelines, p.taskId = taskId) ∨
      ∀ f ∈ flags, f.taskId = taskId → f.claimedBy ≠ some login) :
    NoWorse ((gather login pipelines' flags).signal? taskId alternateProof)
      ((gather login pipelines flags).signal? taskId alternateProof) := by
  have pipeline : NoWorse (((gather login pipelines' flags).pipeline? taskId).map Pipeline.signal)
      (((gather login pipelines flags).pipeline? taskId).map Pipeline.signal) :=
    noWorse_pipeline? more
  cases alternateProof with
  | true => exact .refl _
  | false =>
    have reconciled := reconciled_gather login pipelines flags
    have reconciled' := reconciled_gather login pipelines' flags
    intro x found success
    cases held : (gather login pipelines flags).pipeline? taskId with
    | some p =>
      rw [reconciled.direct taskId p held] at found
      obtain ⟨y, held', success', le⟩ :=
        pipeline x (Option.map_eq_some_iff.2 ⟨p, held, Option.some.inj found⟩) success
      obtain ⟨p', kept, rfl⟩ := Option.map_eq_some_iff.1 held'
      exact ⟨p'.signal, reconciled'.direct taskId p' kept, success', le⟩
    | none =>
      -- Without a pipeline the signal is a flag, and there is none to displace.
      rw [reconciled.fallback taskId held] at found
      obtain ⟨f, claimed, -⟩ := Option.map_eq_some_iff.1 found
      have first := flag?_gather_eq_some_iff.1 claimed
      rcases keeps with alternate | some | unclaimed
      · cases alternate
      · have some := (reconciled.hasPipeline taskId).2 some
        rw [held] at some
        cases some
      · exact absurd first.1.2 (unclaimed f first.mem first.1.1)

end Evidence

/-! ## Scores -/

namespace TaskTerms

variable {terms : TaskTerms} {pipelines pipelines' : List Pipeline} {flags flags' : List Flag}

/-- **The score of a task** from the records of a student, whose flags may be those of anyone. -/
def scoreFrom (terms : TaskTerms) (login : String) (pipelines : List Pipeline)
    (flags : List Flag) (retake : Bool) (override? : Option Override) : Score :=
  (evaluate terms
    ((Evidence.gather login pipelines flags).signal? terms.task.id terms.task.alternateProof)
    retake override?).score

theorem recordTimes_subset (morePipelines : pipelines ⊆ pipelines') (moreFlags : flags ⊆ flags') :
    recordTimes pipelines flags ⊆ recordTimes pipelines' flags' :=
  List.append_subset.2 ⟨List.subset_append_of_subset_left _ (List.map_subset _ morePipelines),
    List.subset_append_of_subset_right _ (List.map_subset _ moreFlags)⟩

/-- **More evidence does not lower a score.** If among the times of the records a later submission
is awarded no more, then flags that are added to the records never lower the score of a task, nor
do pipelines if the task had one before, is proved by flags alone or had no flag that the student
claimed. Neither the final deadline nor a retake nor an override changes that. -/
theorem scoreFrom_more (falls : terms.FallsAmong (recordTimes pipelines' flags'))
    (morePipelines : pipelines ⊆ pipelines') (moreFlags : flags ⊆ flags') (login : String)
    (retake : Bool) (override? : Option Override) :
    terms.scoreFrom login pipelines flags retake override? ≤
        terms.scoreFrom login pipelines flags' retake override? ∧
      (terms.task.alternateProof = true ∨ (∃ p ∈ pipelines, p.taskId = terms.task.id) ∨
          (∀ f ∈ flags, f.taskId = terms.task.id → f.claimedBy ≠ some login) →
        terms.scoreFrom login pipelines flags retake override? ≤
          terms.scoreFrom login pipelines' flags retake override?) := by
  have before := recordTimes_subset morePipelines moreFlags
  have withFlags := recordTimes_subset morePipelines (List.Subset.refl flags')
  have withPipelines := recordTimes_subset (List.Subset.refl pipelines') moreFlags
  constructor
  · refine score_evaluate_le (earned_le_earned ?_ falls
      (fun x found => before (Evidence.submittedAt_mem_recordTimes found))
      fun y found => withFlags (Evidence.submittedAt_mem_recordTimes found)) retake override?
    exact Evidence.noWorse_signal?_of_flags moreFlags terms.task.alternateProof
  · intro keeps
    refine score_evaluate_le (earned_le_earned ?_ falls
      (fun x found => before (Evidence.submittedAt_mem_recordTimes found))
      fun y found => withPipelines (Evidence.submittedAt_mem_recordTimes found)) retake override?
    exact Evidence.noWorse_signal?_of_pipelines morePipelines keeps

/-- A task of a hundred points under the weekly policy. -/
def sample : TaskTerms where
  task := ⟨"sum", 100, false⟩
  policy := .weekly
  deadline := ⟨Policy.sampleDeadline, 0⟩
  finalDeadline := none
  retakeRatio := .zero

/-- A success two days late. -/
def lateSuccess : Pipeline := ⟨7, "project", "sum", .success, Policy.twoDaysLate⟩

/-- A success an hour late. -/
def earlySuccess : Pipeline := ⟨8, "project", "sum", .success, Policy.hourLate⟩

/-- Proof on time. -/
def claimed : Flag := ⟨"flag", "sum", Policy.sampleDeadline, some "login"⟩

theorem scoreFrom_more_sample :
    sample.FallsAmong (recordTimes [earlySuccess, lateSuccess] [claimed]) ∧
      [lateSuccess] ⊆ [earlySuccess, lateSuccess] ∧ ([] : List Flag) ⊆ [claimed] ∧
      sample.scoreFrom "login" [lateSuccess] [] false none ≤
        sample.scoreFrom "login" [lateSuccess] [claimed] false none ∧
      sample.scoreFrom "login" [lateSuccess] [] false none ≤
        sample.scoreFrom "login" [earlySuccess, lateSuccess] [] false none := by
  have falls : sample.FallsAmong (recordTimes [earlySuccess, lateSuccess] [claimed]) := by
    decide +kernel
  have morePipelines : [lateSuccess] ⊆ [earlySuccess, lateSuccess] := List.subset_cons_self ..
  have moreFlags : ([] : List Flag) ⊆ [claimed] := List.nil_subset _
  obtain ⟨withFlag, withPipeline⟩ :=
    scoreFrom_more falls morePipelines moreFlags "login" false none
  exact ⟨falls, morePipelines, moreFlags, withFlag,
    withPipeline (.inr (.inl ⟨lateSuccess, List.mem_cons_self, rfl⟩))⟩

/-- A first pipeline that fails takes the place of a claimed flag. -/
example : sample.scoreFrom "login" [] [claimed] false none = 100 ∧
    sample.scoreFrom "login" [{ lateSuccess with verdict := .failed }] [claimed] false none =
      0 := by decide +kernel

end TaskTerms
end Gradebook
