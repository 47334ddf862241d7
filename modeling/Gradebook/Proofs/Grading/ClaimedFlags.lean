/-
# Claimed flags and pipelines

A task with alternate proof is proved by a claimed flag. Drop the requirement from the task
(`Course.direct`) and replace the flags by successful pipelines started when they were created
(`Holdings.Mirrors`): the report is the same but for the links to pipelines
(`gradeStudent_direct`). The evidence is found in two different ways, but the earliest flag and the
best pipeline are both the first of their times (`Holdings.Mirrors.createdAt_eq_startedAt`), and
nothing else in a course asks how a task is proved.
-/

import Gradebook.Proofs.Grading.BestEvidence
import Gradebook.Proofs.Grading.Locality

namespace Gradebook

/-! ## Tasks without alternate proof -/

/-- A task without alternate proof. -/
def Task.direct (t : Task) : Task := { t with alternateProof := false }

/-- A task group in which a task is without alternate proof. -/
def TaskGroup.direct (taskId : String) (g : TaskGroup) : TaskGroup :=
  { g with tasks := g.tasks.map fun t => if t.id = taskId then t.direct else t }

namespace Course

variable {taskId : String}

/-- The parts of a course in which a task is without alternate proof. -/
def Parts.direct (parts : Parts) (taskId : String) : Parts :=
  { parts with taskGroups := parts.taskGroups.map (TaskGroup.direct taskId) }

/-- **A course in which a task is without alternate proof.** -/
def direct (c : Course) (taskId : String) : Course :=
  { c with taskGroups := c.taskGroups.map (TaskGroup.direct taskId) }

/-- What is the same of a task with and without alternate proof is the same of all tasks. -/
theorem map_tasks_direct {α : Type} (f : Task → α) (same : ∀ t, f t.direct = f t)
    (g : TaskGroup) : (g.direct taskId).tasks.map f = g.tasks.map f := by
  rw [TaskGroup.direct, List.map_map]
  refine List.map_congr_left fun t _ => ?_
  rw [Function.comp_apply]
  split
  · exact same t
  · rfl

theorem nominalTotal_direct (g : TaskGroup) : (g.direct taskId).nominalTotal = g.nominalTotal :=
  congrArg total (map_tasks_direct (fun t => t.nominalScore.toNat) (fun _ => rfl) g)

theorem taskIds_direct (groups : List TaskGroup) :
    taskIds (groups.map (TaskGroup.direct taskId)) = taskIds groups := by
  rw [taskIds, taskIds, List.flatMap_map]
  refine List.flatMap_congr fun g _ => ?_
  exact map_tasks_direct (·.id) (fun _ => rfl) g

theorem resolve_direct (c : Course) (g : TaskGroup) :
    (c.direct taskId).resolve (g.direct taskId) = c.resolve g := rfl

theorem addTotal_direct (c : Course) (g : TaskGroup) :
    addTotal (c.direct taskId) (g.direct taskId) = (addTotal c g).map (·.direct taskId) := by
  rw [addTotal, addTotal, resolve_direct, nominalTotal_direct]
  cases c.resolve g <;> rfl

theorem foldlM_addTotal_direct (groups : List TaskGroup) (c : Course) :
    (groups.map (TaskGroup.direct taskId)).foldlM addTotal (c.direct taskId) =
      (groups.foldlM addTotal c).map (·.direct taskId) := by
  induction groups generalizing c with
  | nil => rfl
  | cons g rest ih =>
    rw [List.map_cons, List.foldlM_cons, List.foldlM_cons, addTotal_direct]
    cases addTotal c g with
    | error e => rfl
    | ok d => exact ih d

theorem map_refuse_bind (error? : Option CourseError) (x : Except CourseError Course)
    (f : Course → Course) :
    (refuse error? >>= fun _ => x).map f = refuse error? >>= fun _ => x.map f := by
  cases error? <;> rfl

/-- **Building does not ask how a task is proved.** -/
theorem build_direct (parts : Parts) (taskId : String) :
    build (parts.direct taskId) = (build parts).map (·.direct taskId) := by
  have duplicate : duplicateError? (parts.direct taskId).taskGroups =
      duplicateError? parts.taskGroups := by
    rw [duplicateError?, duplicateError?, Parts.direct, taskIds_direct]
  simp only [build, map_refuse_bind, duplicate]
  rw [← foldlM_addTotal_direct]
  rfl

end Course

/-! ## Flags and pipelines of the same times -/

namespace Holdings

/-- The flags of a student for a task. -/
def claimed (h : Holdings) (login taskId : String) : List Flag :=
  h.flags.filter fun f => f.taskId = taskId ∧ f.claimedBy = some login

/-- The pipelines for a task. -/
def attempts (h : Holdings) (taskId : String) : List Pipeline :=
  h.pipelines.filter fun p => p.taskId = taskId

/-- **Records with successful pipelines in place of claimed flags** for a task: they started when
the flags were created, of which there is one at least. All else is the same but for the pipelines
of the one for the task and the flags of the other, which may be any. -/
structure Mirrors (b a : Holdings) (login taskId : String) : Prop where
  others : a.AgreeButFor b taskId
  override : a.override? taskId = b.override? taskId
  nonempty : a.claimed login taskId ≠ []
  succeeded : ∀ p ∈ b.attempts taskId, p.verdict = .success
  times : ((a.claimed login taskId).map (·.createdAt)).Perm
    ((b.attempts taskId).map (·.startedAt))

variable {a b : Holdings} {login taskId : String}

theorem mem_claimed {f : Flag} :
    f ∈ a.claimed login taskId ↔ f ∈ a.flags ∧ f.taskId = taskId ∧ f.claimedBy = some login := by
  simp [claimed]

theorem mem_attempts {p : Pipeline} :
    p ∈ b.attempts taskId ↔ p ∈ b.pipelines ∧ p.taskId = taskId := by
  simp [attempts]

/-- **The flag that counts** is one of the earliest. -/
theorem createdAt_le {f : Flag}
    (held : (Evidence.gather login a.pipelines a.flags).flag? taskId = some f) :
    f ∈ a.claimed login taskId ∧
      ∀ g ∈ a.claimed login taskId, f.createdAt.le g.createdAt = true := by
  have first := Evidence.flag?_gather_eq_some_iff.1 held
  refine ⟨mem_claimed.2 ⟨first.mem, first.1⟩, fun g mem => ?_⟩
  obtain ⟨memG, kept⟩ := mem_claimed.1 mem
  exact Instant.le_of_lt_eq_false <| Bool.eq_false_iff.2 fun less =>
    first.2.1 g memG kept (.inl less)

/-- **The pipeline that counts** is one of the earliest if all are successful. -/
theorem startedAt_le {p : Pipeline} (succeeded : ∀ q ∈ b.attempts taskId, q.verdict = .success)
    (held : (Evidence.gather login b.pipelines b.flags).pipeline? taskId = some p) :
    p ∈ b.attempts taskId ∧ ∀ q ∈ b.attempts taskId, p.startedAt.le q.startedAt = true := by
  have first := Evidence.pipeline?_gather_eq_some_iff.1 held
  have mem : p ∈ b.attempts taskId := mem_attempts.2 ⟨first.mem, first.1⟩
  refine ⟨mem, fun q memQ => ?_⟩
  obtain ⟨listed, own⟩ := mem_attempts.1 memQ
  refine Instant.le_of_lt_eq_false <| Bool.eq_false_iff.2 fun less =>
    first.2.1 q listed own (.inr ⟨?_, .inl less⟩)
  rw [succeeded p mem, succeeded q memQ]

/-- **The earliest flag and the best pipeline** have the same time. -/
theorem Mirrors.exists_signals (mirrors : b.Mirrors a login taskId) :
    ∃ (f : Flag) (p : Pipeline), f.createdAt = p.startedAt ∧
      (Evidence.gather login a.pipelines a.flags).signal? taskId true =
        some ⟨.success, f.createdAt, .flag f.id⟩ ∧
      (Evidence.gather login b.pipelines b.flags).signal? taskId false =
        some ⟨.success, p.startedAt, .pipeline p.id⟩ := by
  have flags := Evidence.reconciled_gather login a.pipelines a.flags
  have pipelines := Evidence.reconciled_gather login b.pipelines b.flags
  obtain ⟨f₀, mem₀⟩ := List.exists_mem_of_ne_nil _ mirrors.nonempty
  obtain ⟨f, heldF⟩ := Option.isSome_iff_exists.1 <|
    (flags.hasFlag taskId).2 ⟨f₀, mem_claimed.1 mem₀⟩
  obtain ⟨memF, leastF⟩ := createdAt_le heldF
  -- Each of the two is no later than a record of the other kind that has the other's time.
  obtain ⟨q, memQ, sameQ⟩ :=
    List.mem_map.1 (mirrors.times.mem_iff.1 (List.mem_map_of_mem memF))
  obtain ⟨p, heldP⟩ := Option.isSome_iff_exists.1 <|
    (pipelines.hasPipeline taskId).2 ⟨q, mem_attempts.1 memQ⟩
  obtain ⟨memP, leastP⟩ := startedAt_le mirrors.succeeded heldP
  obtain ⟨g, memG, sameG⟩ :=
    List.mem_map.1 (mirrors.times.mem_iff.2 (List.mem_map_of_mem memP))
  have le := leastF g memG
  have ge := leastP q memQ
  simp only [sameG, sameQ] at le ge
  refine ⟨f, p, Instant.eq_of_compare_eq (Std.OrientedCmp.isLE_antisymm le ge), ?_, ?_⟩
  · rw [flags.alternate, heldF]
    rfl
  · rw [pipelines.direct taskId p heldP, mirrors.succeeded p memP]
    rfl

end Holdings

/-! ## Reports without links -/

/-- An entry without the link to a pipeline, if it is that of a task. -/
def TaskResult.withoutLink (taskId : String) (entry : TaskResult) : TaskResult :=
  if entry.taskId = taskId then { entry with pipelineUrl := none } else entry

/-- The result of a task group without the link in the entry of a task. -/
def GroupResult.withoutLink (taskId : String) (result : GroupResult) : GroupResult :=
  { result with tasks := result.tasks.map (·.withoutLink taskId) }

/-- **A report without the link in the entry of a task.** -/
def Report.withoutLink (taskId : String) (r : Report) : Report :=
  { r with groups := r.groups.map (·.withoutLink taskId) }

theorem map_withoutLink {α : Type} (f : TaskResult → α)
    (same : ∀ entry, f { entry with pipelineUrl := none } = f entry) (taskId : String)
    (entries : List TaskResult) :
    (entries.map (·.withoutLink taskId)).map f = entries.map f := by
  rw [List.map_map]
  refine List.map_congr_left fun entry _ => ?_
  rw [Function.comp_apply, TaskResult.withoutLink]
  split
  · exact same entry
  · rfl

section

variable {a b : Holdings} {s : Student} {taskId : String} (mirrors : b.Mirrors a s.login taskId)
  {c : Course} (platform : Platform) (project : String) (scoring : Course.Scoring) {g : TaskGroup}
  {t : Task}

include mirrors

/-- **The entry of the task** is the same but for the link. -/
theorem gradeTask_direct (own : t.id = taskId) (alternate : t.alternateProof = true) :
    gradeTask c platform (a.dossier s project) scoring g t =
      (gradeTask (c.direct taskId) platform (b.dossier s project) scoring (g.direct taskId)
        t.direct).withoutLink taskId := by
  subst own
  obtain ⟨f, p, same, ofFlag, ofPipeline⟩ := mirrors.exists_signals
  have signal : (a.dossier s project).evidence.signal? t.id t.alternateProof =
      some ⟨.success, f.createdAt, .flag f.id⟩ := by
    rw [alternate]
    exact ofFlag
  have signal' : (b.dossier s project).evidence.signal? t.direct.id t.direct.alternateProof =
      some ⟨.success, p.startedAt, .pipeline p.id⟩ := ofPipeline
  have override : (a.dossier s project).overrides.find? t.id =
      (b.dossier s project).overrides.find? t.direct.id := by
    show (overridesByTask _).find? _ = (overridesByTask _).find? _
    rw [find?_overridesByTask, find?_overridesByTask]
    exact mirrors.override
  have named : (gradeTask (c.direct t.id) platform (b.dossier s project) scoring (g.direct t.id)
      t.direct).taskId = t.id := taskId_gradeTask ..
  rw [TaskResult.withoutLink, if_pos named, gradeTask, gradeTask, signal, signal', override, same]
  cases (b.dossier s project).overrides.find? t.direct.id <;> rfl

/-- The entries of other tasks. -/
theorem gradeTask_direct_of_ne (other : t.id ≠ taskId) :
    gradeTask c platform (a.dossier s project) scoring g t =
      (gradeTask (c.direct taskId) platform (b.dossier s project) scoring (g.direct taskId)
        t).withoutLink taskId := by
  have entry : gradeTask c platform (a.dossier s project) scoring g t =
      gradeTask c platform (b.dossier s project) scoring g t :=
    gradeTask_eq_of_agreeOn (mirrors.others.agreeOn s project other) scoring g
  rw [TaskResult.withoutLink, if_neg (by rwa [taskId_gradeTask]), entry]
  rfl

variable (alternate : ∀ t ∈ g.tasks, t.id = taskId → t.alternateProof = true)

include alternate

theorem gradeGroup_direct :
    gradeGroup c platform (a.dossier s project) scoring g =
      (gradeGroup (c.direct taskId) platform (b.dossier s project) scoring
        (g.direct taskId)).withoutLink taskId := by
  have entries : g.tasks.map (gradeTask c platform (a.dossier s project) scoring g) =
      ((g.direct taskId).tasks.map (gradeTask (c.direct taskId) platform (b.dossier s project)
        scoring (g.direct taskId))).map (·.withoutLink taskId) := by
    rw [TaskGroup.direct, List.map_map, List.map_map]
    refine List.map_congr_left fun t mem => ?_
    rw [Function.comp_apply, Function.comp_apply]
    split
    · next own => exact gradeTask_direct mirrors platform project scoring own (alternate t mem own)
    · next other => exact gradeTask_direct_of_ne mirrors platform project scoring other
  have scores := map_withoutLink (fun entry => entry.score.toNat) (fun _ => rfl) taskId
  have maxima := map_withoutLink (fun entry => entry.maxScore.toNat) (fun _ => rfl) taskId
  simp only [gradeGroup, GroupResult.withoutLink, entries, scores, maxima]
  rfl

end

/-! ## Reports on courses -/

/-- What a task group resolves to, with the task without alternate proof in it. -/
def directRow (taskId : String) (row : Course.Scoring × TaskGroup) : Course.Scoring × TaskGroup :=
  (row.1, row.2.direct taskId)

theorem Course.resolved_direct (c : Course) (taskId : String) :
    (c.direct taskId).resolved = c.resolved.map (List.map (directRow taskId)) := by
  have rows : (fun g => ((c.direct taskId).resolve (g.direct taskId)).map
      fun scoring => (scoring, g.direct taskId)) =
        fun g => ((c.resolve g).map fun scoring => (scoring, g)).map (directRow taskId) := by
    funext g
    rw [resolve_direct]
    cases c.resolve g <;> rfl
  rw [resolved, resolved, direct, List.mapM_map, ← mapM_map_eq, ← rows]
  rfl

section

variable {a b : Holdings} {s : Student} {taskId : String} (mirrors : b.Mirrors a s.login taskId)
  {c : Course} (platform : Platform) (project : String)
  {resolved : List (Course.Scoring × TaskGroup)}
  (alternate : ∀ row ∈ resolved, ∀ t ∈ row.2.tasks, t.id = taskId → t.alternateProof = true)

include mirrors alternate

theorem scoredGroups_direct :
    scoredGroups c platform (a.dossier s project) resolved =
      (scoredGroups (c.direct taskId) platform (b.dossier s project)
        (resolved.map (directRow taskId))).map fun row => (row.1, row.2.withoutLink taskId) := by
  rw [scoredGroups, scoredGroups, List.map_map, List.map_map]
  refine List.map_congr_left fun row mem => ?_
  exact congrArg (row.1, ·) (gradeGroup_direct mirrors platform project row.1 (alternate row mem))

/-- **The report** is the same but for the links to pipelines for the task. -/
theorem reportOf_direct :
    reportOf c platform (a.dossier s project) resolved =
      (reportOf (c.direct taskId) platform (b.dossier s project)
        (resolved.map (directRow taskId))).withoutLink taskId := by
  simp only [reportOf, scoredGroups_direct mirrors platform project alternate, Report.withoutLink,
    List.map_map, List.foldl_map]
  rfl

end

/-- **A claimed flag counts like a successful pipeline** that was started when the flag was created.
Take any course that was built and one of its tasks with alternate proof. Without that requirement
the course is built as well. A student with claimed flags for the task has a report on the first
course, and one on the second with successful pipelines in place of the flags, and the first is the
second without the link to the pipeline in the entry of the task. -/
theorem gradeStudent_direct {parts : Course.Parts} {c : Course} (built : Course.build parts = .ok c)
    {g : TaskGroup} (memG : g ∈ c.taskGroups) {t : Task} (memT : t ∈ g.tasks)
    (alternate : t.alternateProof = true) {a b : Holdings} {s : Student}
    (mirrors : b.Mirrors a s.login t.id) (platform : Platform) (project : String) :
    Course.build (parts.direct t.id) = .ok (c.direct t.id) ∧
      ∃ r q, gradeStudent c platform (a.dossier s project) = .ok r ∧
        gradeStudent (c.direct t.id) platform (b.dossier s project) = .ok q ∧
        r = q.withoutLink t.id := by
  have sound := Course.sound_of_build_eq_ok built
  obtain ⟨resolved, resolves⟩ := sound.exists_resolved_eq_ok
  have only : ∀ row ∈ resolved, ∀ t' ∈ row.2.tasks, t'.id = t.id → t'.alternateProof = true := by
    intro row mem t' mem' same
    have found := sound.findsTasks g memG t memT
    have found' := sound.findsTasks row.2 (Course.resolve_of_mem_resolved resolves mem).1 t' mem'
    rw [same, found] at found'
    cases found'
    exact alternate
  refine ⟨by rw [Course.build_direct, built]; rfl,
    reportOf c platform (a.dossier s project) resolved,
    reportOf (c.direct t.id) platform (b.dossier s project) (resolved.map (directRow t.id)),
    ?_, ?_, reportOf_direct mirrors platform project only⟩
  · rw [gradeStudent_eq_map_resolved, resolves]
    rfl
  · rw [gradeStudent_eq_map_resolved, Course.resolved_direct, resolves]
    rfl

/-! ### Two flags or two pipelines

The second of two tasks is proved by flags, and the first of them counts. -/

/-- An hour after the default. -/
def Instant.later : Instant := (default : Instant).shift 3600

namespace Holdings

def flagged : Holdings where
  pipelines := [⟨7, "project", "sum", .success, default⟩, ⟨8, "project", "max", .failed, default⟩]
  flags := [⟨"second", "max", .later, some "login"⟩, ⟨"first", "max", default, some "login"⟩]
  overrides := []

def attempted : Holdings where
  pipelines := [⟨9, "project", "max", .success, default⟩, ⟨7, "project", "sum", .success, default⟩,
    ⟨10, "project", "max", .success, .later⟩]
  flags := []
  overrides := []

theorem mirrors_attempted : attempted.Mirrors flagged "login" "max" where
  others := agreeButFor_of_filter_eq (by decide) (by decide) (by decide)
  override := by decide
  nonempty := by decide
  succeeded := by decide
  times := by decide

end Holdings

theorem gradeStudent_direct_attempted :
    Course.build .twoTasks = .ok .twoTasks ∧
      Holdings.attempted.Mirrors .flagged "login" "max" ∧
      Course.build (Course.Parts.twoTasks.direct "max") = .ok (Course.twoTasks.direct "max") ∧
      ∃ r q, gradeStudent .twoTasks default (Holdings.flagged.dossier .newcomer "project") = .ok r ∧
        gradeStudent (Course.twoTasks.direct "max") default
          (Holdings.attempted.dossier .newcomer "project") = .ok q ∧
        r = q.withoutLink "max" := by
  have memG : (⟨"01-intro", "", default, default, [⟨"sum", 10, false⟩, ⟨"max", 5, true⟩]⟩ :
      TaskGroup) ∈ Course.twoTasks.taskGroups := List.mem_singleton.2 rfl
  have memT : (⟨"max", 5, true⟩ : Task) ∈ [(⟨"sum", 10, false⟩ : Task), ⟨"max", 5, true⟩] :=
    List.mem_cons_of_mem _ List.mem_cons_self
  exact ⟨Course.build_twoTasks, Holdings.mirrors_attempted,
    gradeStudent_direct Course.build_twoTasks memG memT rfl Holdings.mirrors_attempted default
      "project"⟩

end Gradebook
