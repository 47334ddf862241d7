/-
# Course documents

A course document has one of two layouts.

* The *legacy* layout is a list of task groups. They all belong to one scoring group of weight
  10, under the policy of weekly tasks.
* The *scored* layout is a record with task groups, policies, scoring groups and settings for
  the whole course.

Dates without an offset are read at the time zone of the document, or else three hours east
of universal time.
-/

import Gradebook.Course.Build
import Gradebook.Time.Offset
import Gradebook.Time.Reading
import Gradebook.Yaml.Decoding
import Gradebook.Yaml.Resolve

namespace Gradebook

open Yaml (Value)
open Yaml.Decode (Fields)

/-- The layouts of course documents. -/
inductive Course.Layout where
  | legacy
  | scored
  /-- Legacy for a list and scored for anything else. -/
  | auto
deriving DecidableEq, Inhabited

namespace Course
namespace Layout

/-- Reads the name of a layout in any letter case, blanks at either end aside. -/
def read? (s : String) : Option Layout :=
  match String.ofList ((Text.trimChars s.toList).map Char.toLower) with
  | "v1" => some legacy
  | "v2" => some scored
  | "auto" => some auto
  | _ => none

end Layout

/-! ## Entries of documents -/

structure TaskEntry where
  id : String
  score : Score
  alternateProof : Bool
deriving DecidableEq

structure LegacyGroupEntry where
  group : String
  start : String
  deadline : String
  tasks : List TaskEntry
deriving DecidableEq

structure GroupEntry where
  title : String
  group : String
  start : String
  deadline : String
  tasks : List TaskEntry
deriving DecidableEq

structure PolicyEntry where
  name : String
  kind : String
  spec : List (Value × Value)

structure ScoringGroupEntry where
  name : String
  weight : Binary64
  policy : String
deriving DecidableEq

/-- A document in the scored layout. -/
structure ScoredDocument where
  assignments : List GroupEntry := []
  policies : List PolicyEntry := []
  groups : List ScoringGroupEntry := []
  defaultGroup : String := ""
  finalDeadline : Option String := none
  retakeRatio : Binary64 := Binary64.zero
  timezone : Option String := none

/-! ## Shape -/

def TaskEntry.decode : Yaml.Decoder TaskEntry := fun v => do
  let fields ← Yaml.Decode.fields v
  return {
    id := ← fields.get "task" Yaml.Decode.text
    score := UInt32.ofNat (← fields.getD ["score"] (Yaml.Decode.natBelow UInt32.size) 0)
    alternateProof :=
      ← fields.getD ["alternate_proof", "crashme", "alternateProof"] Yaml.Decode.boolean false }

def LegacyGroupEntry.decode : Yaml.Decoder LegacyGroupEntry := fun v => do
  let fields ← Yaml.Decode.fields v
  return {
    group := ← fields.get "group" Yaml.Decode.text
    start := ← fields.get "start" Yaml.Decode.text
    deadline := ← fields.get "deadline" Yaml.Decode.text
    tasks := ← fields.getD ["tasks"] (Yaml.Decode.listOf TaskEntry.decode) [] }

def GroupEntry.decode : Yaml.Decoder GroupEntry := fun v => do
  let fields ← Yaml.Decode.fields v
  return {
    title := ← fields.getD ["title"] Yaml.Decode.text ""
    group := ← fields.getD ["group"] Yaml.Decode.text ""
    start := ← fields.get "start" Yaml.Decode.text
    deadline := ← fields.get "deadline" Yaml.Decode.text
    tasks := ← fields.getD ["tasks"] (Yaml.Decode.listOf TaskEntry.decode) [] }

def PolicyEntry.decode : Yaml.Decoder PolicyEntry := fun v => do
  let fields ← Yaml.Decode.fields v
  return {
    name := ← fields.get "name" Yaml.Decode.text
    kind := ← fields.get "kind" Yaml.Decode.text
    spec := ← fields.getD ["spec"] Yaml.Decode.freePairs [] }

def ScoringGroupEntry.decode : Yaml.Decoder ScoringGroupEntry := fun v => do
  let fields ← Yaml.Decode.fields v
  return {
    name := ← fields.get "name" Yaml.Decode.text
    weight := ← fields.getD ["weight"] Yaml.Decode.float Binary64.zero
    policy := ← fields.get "policy" Yaml.Decode.text }

def ScoredDocument.decode : Yaml.Decoder ScoredDocument := fun v => do
  let fields ← Yaml.Decode.fields v
  let scoring ← fields.getD ["scoring"] Yaml.Decode.fields []
  return {
    assignments := ← fields.getD ["assignments"] (Yaml.Decode.listOf GroupEntry.decode) []
    policies := ← scoring.getD ["policies"] (Yaml.Decode.listOf PolicyEntry.decode) []
    groups := ← scoring.getD ["groups"] (Yaml.Decode.listOf ScoringGroupEntry.decode) []
    defaultGroup := ← scoring.getD ["defaultGroup"] Yaml.Decode.text ""
    finalDeadline :=
      ← fields.getD ["finalDeadline"] (Yaml.Decode.nullable Yaml.Decode.text) none
    retakeRatio := ← fields.getD ["retakePenaltyRatio"] Yaml.Decode.float Binary64.zero
    timezone := ← fields.getD ["timezone"] (Yaml.Decode.nullable Yaml.Decode.text) none }

/-! ## Meaning -/

/-- The offset of documents that name no time zone. -/
def defaultOffset : Int := 3 * 3600

def readDate (offset : Int) (value : String) : Except CourseError LocalInstant :=
  match LocalInstant.read? offset value with
  | some date => .ok date
  | none => .error (.invalidDate value)

def readDuration (value : String) : Except CourseError Duration :=
  match Duration.read? value with
  | some duration => .ok duration
  | none => .error (.invalidDuration value)

def readOffset (value : String) : Except CourseError Int :=
  match Offset.read? value with
  | some offset => .ok offset
  | none => .error (.invalidTimezone value)

def TaskEntry.task (t : TaskEntry) : Task := ⟨Text.trim t.id, t.score, t.alternateProof⟩

/-- A task group at an offset. -/
def taskGroup (offset : Int) (title scoringGroup start deadline : String)
    (tasks : List TaskEntry) : Except CourseError TaskGroup := do
  let start ← readDate offset start
  let deadline ← readDate offset deadline
  return ⟨title, scoringGroup, start, deadline, tasks.map TaskEntry.task⟩

/-! ### The legacy layout -/

def defaultName : String := "default"

def legacyWeight : Binary64 := Binary64.ofNat 10

/-- **The parts of a legacy document.** -/
def legacyParts (groups : List LegacyGroupEntry) : Except CourseError Parts := do
  let taskGroups ← groups.mapM fun g =>
    taskGroup defaultOffset g.group "" g.start g.deadline g.tasks
  return {
    taskGroups := taskGroups
    policies := NameMap.empty.insert defaultName Policy.weekly
    scoringGroups := [{ name := defaultName, weight := legacyWeight, policy := defaultName }]
    defaultScoringGroup := defaultName
    finalDeadline := none
    retakeRatio := Binary64.zero }

/-! ### The scored layout -/

/-- The value of the first of some keys that a policy has. -/
def specValue? (spec : List (Value × Value)) (keys : List String) : Option Value :=
  keys.findSome? fun key =>
    (spec.find? fun pair => match pair.1 with
      | .string s => s = key
      | _ => false).map (·.2)

/-- The duration under the first of some keys. A number is refused because it has no unit. -/
def specDuration (spec : List (Value × Value)) (keys : List String) :
    Except CourseError (Option Duration) :=
  match specValue? spec keys with
  | none => .ok none
  | some (.string value) => (readDuration value).map some
  | some (.integer value) => .error (.invalidDuration (toString value))
  | some (.float value) => .error (.invalidDuration (Yaml.Value.numberText value))
  | some other => .error (.invalidDuration other.description)

/-- The number under the first of some keys. -/
def specFloat? (spec : List (Value × Value)) (keys : List String) : Option Binary64 :=
  (specValue? spec keys).bind Yaml.Decode.float?

namespace PolicyEntry

variable (p : PolicyEntry)

/-- A part that a policy has to have, named by its first key. -/
def require {α : Type} (name : String) : Option α → Except CourseError α
  | some value => .ok value
  | none => .error (.invalidPolicy p.name ("missing " ++ name))

/-- The policy of an entry. -/
def policy : Except CourseError Policy := do
  match Text.trim p.kind with
  | "exp" | "exponential" =>
    let halfLife ← p.require "halfLife" (← specDuration p.spec ["halfLife", "multiplier"])
    let floor ← p.require "floorRatio" (specFloat? p.spec ["floorRatio", "threshold"])
    return .exponential halfLife floor
  | "linear" =>
    let grace ← p.require "gracePeriod" (← specDuration p.spec ["gracePeriod", "after"])
    let floor ← p.require "floorMultiplier" (specFloat? p.spec ["floorMultiplier", "multiplier"])
    return .linear grace floor
  | other => throw (.unknownPolicyKind p.name other)

end PolicyEntry

/-- A task group; without a title it has that of its scoring group. -/
def GroupEntry.taskGroup (offset : Int) (g : GroupEntry) : Except CourseError TaskGroup :=
  Course.taskGroup offset (if g.title.isEmpty then g.group else g.title) g.group g.start
    g.deadline g.tasks

/-- **The parts of a scored document.** -/
def scoredParts (d : ScoredDocument) : Except CourseError Parts := do
  let offset ← match d.timezone with
    | some value => readOffset value
    | none => pure defaultOffset
  let taskGroups ← d.assignments.mapM (GroupEntry.taskGroup offset)
  let policies ← d.policies.mapM fun p => do return (p.name, ← p.policy)
  let finalDeadline ← d.finalDeadline.mapM (readDate offset)
  return {
    taskGroups := taskGroups
    policies := .ofList policies
    scoringGroups := d.groups.map fun g =>
      { name := g.name, weight := g.weight, policy := g.policy }
    defaultScoringGroup := d.defaultGroup
    finalDeadline := finalDeadline
    retakeRatio := d.retakeRatio }

/-! ## Texts -/

/-- Whether a value is read in the legacy layout. -/
def Layout.isLegacy (layout : Layout) (v : Value) : Bool :=
  match layout, v.untagged with
  | .legacy, _ => true
  | .auto, .sequence _ => true
  | _, _ => false

/-- The error of a value that has not the shape of a document. -/
def shaped {α : Type} : Except Yaml.Shape α → Except CourseError α
  | .ok value => .ok value
  | .error shape => .error (.malformed shape.message)

/-- The parts of a document. -/
def partsOf (layout : Layout) (v : Value) : Except CourseError Parts := do
  if layout.isLegacy v then
    legacyParts (← shaped (Yaml.Decode.listOf LegacyGroupEntry.decode v))
  else scoredParts (← shaped (ScoredDocument.decode v))

/-- **Reads a course.** -/
def read (layout : Layout) (text : String) : Except CourseError Course :=
  match Yaml.Value.read text with
  | .error fault => .error (.malformed fault.message)
  | .ok value => do build (← partsOf layout value)

end Course
end Gradebook
