/-
# Records as JSON

A record is an object with the fields below, or an array with their values in this order.

| record | fields |
| --- | --- |
| student | `login`, `first_name`, `last_name`, `group_name`, `retake` (or false) |
| pipeline | `id`, `project`, `task_id`, `status`, `started_at` |
| flag | `id`, `task_id`, `created_at`, `claimed_by` (or none) |
| override | `login`, `task_id`, `score`, `status` |
-/

import Gradebook.Json.Decoding
import Gradebook.Record
import Gradebook.Time.Reading
import Gradebook.Time.Written

namespace Gradebook

open Json (Decoder Fault Field)

namespace Json

/-- A verdict. -/
def verdict : Decoder Verdict := choice Verdict.ofName?

/-- An instant in the lenient form. -/
def instant : Decoder Instant :=
  textForm fun s => (TimeText.lenient? s.toList).map (·.instant)

/-- A score. -/
def score : Decoder Score := fun j => (natBelow UInt32.size j).map UInt32.ofNat

end Json

def Student.fields : List Field :=
  [.of "login" Json.text false, .of "first_name" Json.text false,
    .of "last_name" Json.text false, .of "group_name" Json.text false,
    .of "retake" Json.boolean true]

def Student.ofJson : Decoder Student := fun j => do
  let slots ← Json.slots Student.fields j
  return {
    login := ← slots.get "login" Json.text
    firstName := ← slots.get "first_name" Json.text
    lastName := ← slots.get "last_name" Json.text
    group := ← slots.get "group_name" Json.text
    retake := ← slots.getD "retake" Json.boolean false }

def Pipeline.fields : List Field :=
  [.of "id" (Json.natBelow UInt64.size) false, .of "project" Json.text false,
    .of "task_id" Json.text false, .of "status" Json.verdict false,
    .of "started_at" Json.instant false]

def Pipeline.ofJson : Decoder Pipeline := fun j => do
  let slots ← Json.slots Pipeline.fields j
  return {
    id := UInt64.ofNat (← slots.get "id" (Json.natBelow UInt64.size))
    project := ← slots.get "project" Json.text
    taskId := ← slots.get "task_id" Json.text
    verdict := ← slots.get "status" Json.verdict
    startedAt := ← slots.get "started_at" Json.instant }

def Flag.fields : List Field :=
  [.of "id" Json.text false, .of "task_id" Json.text false, .of "created_at" Json.instant false,
    .of "claimed_by" (Json.nullable Json.text) true]

def Flag.ofJson : Decoder Flag := fun j => do
  let slots ← Json.slots Flag.fields j
  return {
    id := ← slots.get "id" Json.text
    taskId := ← slots.get "task_id" Json.text
    createdAt := ← slots.get "created_at" Json.instant
    claimedBy := ← slots.getD "claimed_by" (Json.nullable Json.text) none }

def Override.fields : List Field :=
  [.of "login" Json.text false, .of "task_id" Json.text false, .of "score" Json.score false,
    .of "status" Json.verdict false]

def Override.ofJson : Decoder Override := fun j => do
  let slots ← Json.slots Override.fields j
  return {
    login := ← slots.get "login" Json.text
    taskId := ← slots.get "task_id" Json.text
    score := ← slots.get "score" Json.score
    verdict := ← slots.get "status" Json.verdict }

def Student.toJson (s : Student) : Json :=
  .members [("login", .string s.login), ("first_name", .string s.firstName),
    ("last_name", .string s.lastName), ("group_name", .string s.group),
    ("retake", .bool s.retake)]

def Pipeline.toJson (p : Pipeline) : Json :=
  .members [("id", .nat p.id.toNat), ("project", .string p.project),
    ("task_id", .string p.taskId), ("status", .string p.verdict.name),
    ("started_at", .string p.startedAt.text)]

def Flag.toJson (f : Flag) : Json :=
  .members [("id", .string f.id), ("task_id", .string f.taskId),
    ("created_at", .string f.createdAt.text), ("claimed_by", .optional f.claimedBy)]

def Override.toJson (o : Override) : Json :=
  .members [("login", .string o.login), ("task_id", .string o.taskId),
    ("score", .nat o.score.toNat), ("status", .string o.verdict.name)]

end Gradebook
