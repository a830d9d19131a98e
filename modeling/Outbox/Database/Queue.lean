import Outbox.Backend
import Outbox.Database.Script
import Outbox.Registry

/-!
# The queue in a database

Producers insert tasks on a transaction of their own.  A claim is a transaction that holds the rows
it locked until it ends; ended in any way but by its commit, it is rolled back.
-/

namespace Outbox.Database

open Outbox.Time

/-- An open claim: the tasks that its transaction locked. -/
structure Claim where
  tasks : List Task
  deriving DecidableEq

/-- The depth of the queue. -/
structure Stats where
  total : Int
  /-- Tasks whose time has passed. -/
  due : Int
  deriving DecidableEq

namespace Queue

/-! ### Producers -/

/-- Inserts one task. -/
def enqueueRaw (id : TaskId) (tag : String) (payload : Json) (scheduledAt : Option Timestamp) :
    Action Script Unit :=
  Script.execute (.insertTask id scheduledAt tag payload)

/-- Inserts a task that asks for one entity. -/
def enqueue (id : TaskId) (entity : EntityId) (tag : String) (scheduledAt : Option Timestamp) :
    Action Script Unit :=
  enqueueRaw id tag (Payload.syncEntity entity).toJson scheduledAt

/-- Inserts a task for each entity, all in one statement; for no entities nothing is sent. -/
def enqueueBatch (fresh : Nat → TaskId) (entities : List EntityId) (tag : String)
    (scheduledAt : Option Timestamp) : Action Script (List TaskId) := do
  if entities.isEmpty then pure []
  else
    let ids := (List.range entities.length).map fresh
    let payloads := entities.map fun e => (Payload.syncEntity e).toJson
    Script.execute (.insertTasks ids scheduledAt tag payloads)
    pure ids

/-! ### Consumers -/

/-- Reads a task. -/
def taskOfRow (row : Row) : Except Error Task := do
  let id ← named row 0 "id" Cell.uuid?
  let enqueuedAt ← named row 1 "enqueued_at" Cell.moment?
  let scheduledAt ← named row 2 "scheduled_at" Cell.moment?
  let tag ← named row 3 "tag" Cell.text?
  let payload ← named row 4 "payload" Cell.json?
  .ok ⟨⟨id⟩, enqueuedAt, scheduledAt, tag, payload⟩

/-- Opens a claim; a negative limit is none. -/
def claimDue (limit : Int) : Action Script Claim := do
  Script.begin
  Script.orAbandon do
    let rows ← Script.query (.claimDue (max limit 0))
    let tasks ← Action.ofView fun _ => rows.mapM taskOfRow
    pure ⟨tasks⟩

/-- Deletes tasks; for none of them nothing is sent. -/
def delete (ids : List TaskId) : Action Script Unit := do
  if ids.isEmpty then pure () else Script.execute (.deleteTasks ids)

/-- Moves a task to the dead letters. -/
def quarantine (t : Task) (reason : String) : Action Script Unit := do
  Script.execute (.insertDeadLetter t reason)
  Script.execute (.deleteTask t.id)

/-- The depth of the queue. -/
def stats : Action Script Stats := do
  match ← Script.query .stats with
  | [] => throw (.database .noRow)
  | row :: _ =>
    Action.ofView fun _ => do
      let total ← numbered row 0 Cell.integer?
      let due ← numbered row 1 Cell.integer?
      .ok ⟨total, due⟩

/-- The queue as the reconciler uses it. -/
def backend : TaskQueue Script Claim where
  claimDue := claimDue
  tasks c := c.tasks
  delete c ids := do
    delete ids
    pure c
  quarantine c t reason := do
    quarantine t reason
    pure c
  commit _ := Script.commit
  rollback _ := Script.rollback
  abandon _ s := s.abandon

end Queue

end Outbox.Database
