/-
# What a repository answers

While no access fails, what a query gives depends on the register alone, and a query that only
reads leaves everything as it was but the log (`Query.Gives`). So the report of a student and the
standings of a group are functions of the register: `Register.report` and `Register.standings`.
-/

import Gradebook.Repository.Grading

namespace Gradebook

/-! ## Computations with a state that can fail -/

section

variable {σ ε α β : Type}

theorem bind_apply (x : ExceptT ε (StateM σ) α) (f : α → ExceptT ε (StateM σ) β) (s : σ) :
    (x >>= f) s = match x s with
      | (.ok a, t) => f a t
      | (.error e, t) => (.error e, t) := by
  show (ExceptT.bindCont f (x s).1 : StateM σ (Except ε β)) (x s).2 = _
  rcases x s with ⟨_ | a, t⟩ <;> rfl

theorem bind_apply_of_ok {x : ExceptT ε (StateM σ) α} {f : α → ExceptT ε (StateM σ) β} {s t : σ}
    {a : α} (h : x s = (.ok a, t)) : (x >>= f) s = f a t := by
  rw [bind_apply, h]

theorem bind_apply_of_error {x : ExceptT ε (StateM σ) α} {f : α → ExceptT ε (StateM σ) β}
    {s t : σ} {e : ε} (h : x s = (.error e, t)) : (x >>= f) s = (.error e, t) := by
  rw [bind_apply, h]

/-- **A result is made step by step:** what comes first did not fail either. -/
theorem exists_of_bind_eq_ok {x : ExceptT ε (StateM σ) α} {f : α → ExceptT ε (StateM σ) β} {s : σ}
    {b : β} (made : ((x >>= f) s).1 = .ok b) : ∃ a t, x s = (.ok a, t) ∧ (f a t).1 = .ok b := by
  rw [bind_apply] at made
  rcases run : x s with ⟨_ | a, t⟩
  · rw [run] at made
    cases made
  · rw [run] at made
    exact ⟨a, t, rfl, made⟩

end

/-! ## Queries -/

namespace Repository

/-- A repository of which no access fails. -/
def Online (r : Repository) : Prop := r.offline = []

theorem update_apply {α : Type} {r : Repository} (online : r.Online) (access : Access)
    (f : Register → α × Register) :
    update access f r =
      (.ok (f r.register).1, { r.logged access with register := (f r.register).2 }) := by
  have available : ¬ access ∈ (r.logged access).offline := by
    rw [show (r.logged access).offline = [] from online]
    exact List.not_mem_nil
  show (if access ∈ (r.logged access).offline then _ else _ : Query α) r = _
  rw [if_neg available]
  rfl

end Repository

namespace Query

variable {α β : Type}

/-- **A query gives a function of the register** and changes nothing but the log. -/
def Gives (q : Query α) (f : Register → Except GradingError α) : Prop :=
  ∀ r : Repository, r.Online → ∃ log, q r = (f r.register, { r with log := log })

theorem gives_of_except (x : Except GradingError α) : Gives (liftM x) fun _ => x :=
  fun r _ => ⟨r.log, rfl⟩

theorem gives_read (access : Access) (f : Register → α) :
    Gives (Repository.read access f) fun register => .ok (f register) :=
  fun r online => ⟨access :: r.log, Repository.update_apply online access _⟩

theorem Gives.bind {q : Query α} {f : Register → Except GradingError α} {k : α → Query β}
    {g : α → Register → Except GradingError β} (hq : q.Gives f) (hk : ∀ a, (k a).Gives (g a)) :
    Gives (q >>= k) fun register => f register >>= fun a => g a register := by
  intro r online
  obtain ⟨log, run⟩ := hq r online
  cases given : f r.register with
  | error e =>
    rw [given] at run
    exact ⟨log, by simp only [bind_apply_of_error run, given]; rfl⟩
  | ok a =>
    rw [given] at run
    obtain ⟨log', run'⟩ := hk a { r with log := log } online
    exact ⟨log', by simp only [bind_apply_of_ok run, run', given]; rfl⟩

end Query

/-! ## Reports and standings -/

theorem Catalog.course_eq_ok_iff {catalog : Catalog} {group : String} {c : Course} :
    catalog.course group = .ok c ↔ catalog.find? group = some c := by
  rw [course]
  cases catalog.find? group <;> simp

namespace Register

variable (register : Register) (platform : Platform) (catalog : Catalog)

/-- A student with the records that belong to the student. -/
def dossier (s : Student) : Dossier where
  student := s
  project := Platform.projectName s
  evidence :=
    .gather s.login (register.projectPipelines (Platform.projectName s))
      (register.studentFlags s.login)
  overrides :=
    overridesByTask ((register.studentOverrides s.login).filter fun o => o.login = s.login)

/-- The report of a student from the records of a register. -/
def report (s : Student) : Except GradingError Report := do
  let course ← catalog.course s.group
  Repository.graded platform course (register.dossier s)

/-- The standings of a group from the records of a register. -/
def standings (group : String) (keeps : Student → Bool) : Except GradingError Standings := do
  let course ← catalog.course group
  Repository.tabulate platform group course ((register.groupStudents group).filter keeps)
    register.pipelines register.claimedFlags register.overrides

variable {register platform catalog} {group : String} {keeps : Student → Bool}

theorem standings_of_known {course : Course} (known : catalog.course group = .ok course) :
    register.standings platform catalog group keeps =
      Repository.tabulate platform group course ((register.groupStudents group).filter keeps)
        register.pipelines register.claimedFlags register.overrides := by
  rw [standings, known]
  rfl

theorem standings_of_unknown {e : GradingError} (unknown : catalog.course group = .error e) :
    register.standings platform catalog group keeps = .error e := by
  rw [standings, unknown]
  rfl

theorem report_of_known {s : Student} {course : Course}
    (known : catalog.course s.group = .ok course) :
    register.report platform catalog s =
      Repository.graded platform course (register.dossier s) := by
  rw [report, known]
  rfl

theorem report_of_unknown {s : Student} {e : GradingError}
    (unknown : catalog.course s.group = .error e) :
    register.report platform catalog s = .error e := by
  rw [report, unknown]
  rfl

end Register

namespace Repository

/-- **The report of a student is that from the register.** -/
theorem gives_report (platform : Platform) (catalog : Catalog) (s : Student) :
    Query.Gives (report platform catalog s) fun register =>
      register.report platform catalog s :=
  (Query.gives_of_except _).bind fun _ => (Query.gives_read _ _).bind fun _ =>
    (Query.gives_read _ _).bind fun _ => (Query.gives_read _ _).bind fun _ =>
      Query.gives_of_except _

/-- **The standings of a group are those from the register.** -/
theorem gives_standings (platform : Platform) (catalog : Catalog) (group : String)
    (keeps : Student → Bool) :
    Query.Gives (standings platform catalog group keeps) fun register =>
      register.standings platform catalog group keeps :=
  (Query.gives_of_except _).bind fun _ => (Query.gives_read _ _).bind fun _ =>
    (Query.gives_read _ _).bind fun _ => (Query.gives_read _ _).bind fun _ =>
      (Query.gives_read _ _).bind fun _ => Query.gives_of_except _

/-- What a repository in order answers is what its register says. -/
theorem fst_report (platform : Platform) (catalog : Catalog) (s : Student) (register : Register) :
    (report platform catalog s { register := register }).1 =
      register.report platform catalog s := by
  obtain ⟨log, run⟩ := gives_report platform catalog s { register := register } rfl
  rw [run]

theorem fst_standings (platform : Platform) (catalog : Catalog) (group : String)
    (keeps : Student → Bool) (register : Register) :
    (standings platform catalog group keeps { register := register }).1 =
      register.standings platform catalog group keeps := by
  obtain ⟨log, run⟩ := gives_standings platform catalog group keeps { register := register } rfl
  rw [run]

end Repository
end Gradebook
