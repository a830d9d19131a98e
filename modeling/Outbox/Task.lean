import Outbox.Uuid.Text
import Outbox.Time.Read
import Outbox.Time.Format
import Outbox.Json.Expect

/-!
# Tasks

A task is a durable note that an entity changed, written in the transaction that changed it.  It is
only ever inserted and deleted.  Its JSON form (`toJson`, `ofJson`) is an object of its five fields;
reading also takes an array of them in order, ignores further members, and reports the first field
that is wrong.
-/

namespace Outbox

open Outbox.Time

/-- Names a task. -/
structure TaskId where
  uuid : Uuid
  deriving DecidableEq

namespace TaskId

instance : Inhabited TaskId := ⟨⟨default⟩⟩

/-- The written form. -/
def text (t : TaskId) : String := t.uuid.text

end TaskId

/-- An entry of the queue. -/
structure Task where
  id : TaskId
  /-- Orders the tasks that may be claimed. -/
  enqueuedAt : Timestamp
  /-- The task may be claimed once this has passed. -/
  scheduledAt : Timestamp
  /-- Says how to read the payload. -/
  tag : String
  /-- Arguments that the queue itself never looks into. -/
  payload : Json
  deriving DecidableEq

/-! ### Fields of the JSON form -/

/-- Reads an identifier given as text. -/
def Uuid.ofJson (j : Json) : Except String Uuid :=
  match j with
  | .string s =>
    match Uuid.ofText s with
    | .ok u => .ok u
    | .error e => .error ("UUID parsing failed: " ++ e.message)
  | j => .error (j.wrongKind "a formatted UUID string")

/-- Reads a moment given as text. -/
def Time.Timestamp.ofJson (j : Json) : Except String Timestamp :=
  match j with
  | .string s =>
    match readRelaxed s.toList with
    | .ok t => .ok t
    | .error e => .error e.message
  | j => .error (j.wrongKind "an RFC 3339 formatted date and time string")

namespace Task

/-- Reads a tag. -/
def tagOfJson (j : Json) : Except String String :=
  match j with
  | .string s => .ok s
  | j => .error (j.wrongKind "a string")

/-- The JSON form. -/
def toJson (t : Task) : Json :=
  .object [
    ("enqueued_at", .string (String.ofList t.enqueuedAt.iso)),
    ("id", .string t.id.text),
    ("payload", t.payload),
    ("scheduled_at", .string (String.ofList t.scheduledAt.iso)),
    ("tag", .string t.tag)]

/-- Reads a field that may be missing. -/
def field? {α : Type} (ms : Json.Members) (name : String) (read : Json → Except String α) :
    Except String (Option α) :=
  match Table.find? ms name with
  | none => .ok none
  | some j => (read j).map some

/-- Insists on a field. -/
def need {α : Type} (name : String) : Option α → Except String α
  | some a => .ok a
  | none => .error (Json.missingField name)

/-- Reads the object form: fields are read in the order of their names, and missing ones are noticed
after that, in the order of the array form. -/
def ofMembers (ms : Json.Members) : Except String Task := do
  let enqueuedAt? ← field? ms "enqueued_at" Timestamp.ofJson
  let id? ← field? ms "id" Uuid.ofJson
  let scheduledAt? ← field? ms "scheduled_at" Timestamp.ofJson
  let tag? ← field? ms "tag" tagOfJson
  let id ← need "id" id?
  let enqueuedAt ← need "enqueued_at" enqueuedAt?
  let scheduledAt ← need "scheduled_at" scheduledAt?
  let tag ← need "tag" tag?
  let payload ← need "payload" (Table.find? ms "payload")
  .ok ⟨⟨id⟩, enqueuedAt, scheduledAt, tag, payload⟩

/-- The elements of the array form, of which the one with a given number is insisted on. -/
def needElement (xs : List Json) (i : Nat) : Except String Json :=
  match xs[i]? with
  | some j => .ok j
  | none => .error (Json.tooFew i "struct Task with 5 elements")

/-- Reads the array form. -/
def ofElements (xs : List Json) : Except String Task := do
  let id ← (needElement xs 0).bind Uuid.ofJson
  let enqueuedAt ← (needElement xs 1).bind Timestamp.ofJson
  let scheduledAt ← (needElement xs 2).bind Timestamp.ofJson
  let tag ← (needElement xs 3).bind tagOfJson
  let payload ← needElement xs 4
  if 5 < xs.length then .error (Json.tooMany xs.length)
  else .ok ⟨⟨id⟩, enqueuedAt, scheduledAt, tag, payload⟩

/-- Reads a task from its JSON form. -/
def ofJson : Json → Except String Task
  | .object ms => ofMembers ms
  | .array xs => ofElements xs
  | j => .error (j.wrongKind "struct Task")

end Task

end Outbox
