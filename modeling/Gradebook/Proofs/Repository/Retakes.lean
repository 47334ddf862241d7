/-
# Standings of those who take the course again

Standings of some students are worked out for these students alone: the others are left out before
anyone is graded and ranked. They are nevertheless what is left of the full standings when the rows
of the others are struck out (`Register.standings_narrowed`), with the same rows in the same order.
For a student gets the same report whoever else is graded, and the ranking keeps reports that share
a place in their order (`filter_rank`).
-/

import Gradebook.Proofs.Grading.Ranking
import Gradebook.Proofs.Repository.Separation
import Gradebook.Service.Cache

namespace Gradebook

/-- The standings without the rows of students that a test does not keep. -/
def Standings.narrowed (table : Standings) (keeps : Summary → Bool) : Standings :=
  { table with users := table.users.filter fun r => keeps r.student }

/-- **Standings of fewer students are the standings without the rows of the others.** -/
theorem Register.standings_narrowed (register : Register) (platform : Platform)
    {catalog : Catalog} {group : String} {course : Course}
    (published : catalog.find? group = some course) (sound : course.Sound)
    (keeps narrows : Student → Bool) (shown : Summary → Bool)
    (shows : ∀ s, shown (.ofStudent platform (Platform.projectName s) s) = narrows s) :
    register.standings platform catalog group (fun s => keeps s && narrows s) =
      (register.standings platform catalog group keeps).map (·.narrowed shown) := by
  obtain ⟨resolved, resolves⟩ := sound.exists_resolved_eq_ok
  have known := Catalog.course_eq_ok_iff.2 published
  rw [standings_of_known known, standings_of_known known,
    register.tabulate_of_resolved_eq_ok platform resolves,
    register.tabulate_of_resolved_eq_ok platform resolves]
  have students : (register.groupStudents group).filter (fun s => keeps s && narrows s) =
      ((register.groupStudents group).filter keeps).filter fun s =>
        shown (reportOf course platform (register.dossier s) resolved).student := by
    rw [List.filter_filter]
    refine List.filter_congr fun s _ => ?_
    rw [Bool.and_comm, ← shows]
    rfl
  rw [students]
  simp only [Except.map, Standings.narrowed, filter_rank, List.filter_map]
  rfl

/-! ## Students of one name -/

/-- A register of three students of one name, of whom the first and the last take the course
again. -/
def Register.namesakes : Register where
  students :=
    [⟨"c", "First", "Last", "2024", true⟩, ⟨"b", "First", "Last", "2024", false⟩,
      ⟨"a", "First", "Last", "2024", true⟩]

/-! ## Retakes -/

namespace Repository

/-- **The standings of those who take the course again** are the standings of all without the rows
of the others: the same rows in the same order, also where marks and names are the same. -/
theorem standings_retakes (platform : Platform) {catalog : Catalog} {group : String}
    {parts : Course.Parts} {course : Course} (built : Course.build parts = .ok course)
    (published : catalog.find? group = some course) (register : Register) (log : List Access) :
    ∃ all retakes : Standings,
      (standings platform catalog group CohortFilter.all.keeps
        { register := register, log := log }).1 = .ok all ∧
      (standings platform catalog group CohortFilter.retakes.keeps
        { register := register, log := log }).1 = .ok retakes ∧
      retakes.users = (all.users.filter fun r => r.student.retake) ∧
      retakes.group = all.group ∧ retakes.course = all.course := by
  have sound := Course.sound_of_build_eq_ok built
  obtain ⟨reports, -, full⟩ := register.exists_standings_eq_ok platform published sound
    CohortFilter.all.keeps
  have narrowed := register.standings_narrowed platform published sound CohortFilter.all.keeps
    CohortFilter.retakes.keeps Summary.retake fun _ => rfl
  rw [full] at narrowed
  obtain ⟨_, runAll⟩ := gives_standings platform catalog group CohortFilter.all.keeps
    { register := register, log := log } rfl
  obtain ⟨_, runRetakes⟩ := gives_standings platform catalog group CohortFilter.retakes.keeps
    { register := register, log := log } rfl
  let all : Standings := { group := group, course := course, users := rank reports }
  refine ⟨all, all.narrowed Summary.retake, ?_, ?_, rfl, rfl, rfl⟩
  · rw [runAll]
    exact full
  · rw [runRetakes]
    exact narrowed

theorem standings_retakes_namesakes :
    Course.build .oneTask = .ok .oneTask ∧ Catalog.oneTask.find? "2024" = some .oneTask ∧
      ∃ all retakes : Standings,
        (standings default .oneTask "2024" CohortFilter.all.keeps
          { register := .namesakes, log := [] }).1 = .ok all ∧
        (standings default .oneTask "2024" CohortFilter.retakes.keeps
          { register := .namesakes, log := [] }).1 = .ok retakes ∧
        retakes.users = (all.users.filter fun r => r.student.retake) ∧
        retakes.group = all.group ∧ retakes.course = all.course :=
  ⟨Course.build_oneTask, Catalog.find?_oneTask, standings_retakes default Course.build_oneTask
    Catalog.find?_oneTask .namesakes []⟩

end Repository
end Gradebook
