import Outbox.Memory.Index
import Outbox.Memory.Queue
import Outbox.Memory.Store
import Outbox.Reconciler

/-!
# Commands of a simulation

A simulation is driven by commands: what the owner of the entities, the producers of tasks, the
consumers, the index and the clock do, one at a time.  Transactions and claims that stay open between
commands go by names.
-/

namespace Outbox.Simulation

open Outbox.Time

/-- When a new task is to become due. -/
inductive Schedule
  | now
  /-- That many milliseconds after the time of the queue. -/
  | after (millis : Int)
  | at (t : Timestamp)
  deriving DecidableEq

/-- The time of a schedule, if it differs from now. -/
def Schedule.time? (now : Timestamp) : Schedule → Option Timestamp
  | .now => none
  | .after millis => some (now.addMillis millis)
  | .at t => some t

/-- What can be done to an index in memory besides using it. -/
inductive IndexCommand
  | seed (d : Document)
  | setAvailable (available : Bool)
  | reject (id : EntityId)
  | document (id : EntityId)
  | calls
  deriving DecidableEq

/-- One thing that happens. -/
inductive Command
  | put (e : Entity)
  | putLive (id : EntityId) (updated : Timestamp) (body : Json)
  | markDeleted (id : EntityId)
  | remove (id : EntityId)
  | setStoreAvailable (available : Bool)
  | primaryStatuses (ids : List EntityId)
  | entities (ids : List EntityId)
  | updatedBetween (start stop : Timestamp)
  | onIndex (c : IndexCommand)
  | indexStatuses (ids : List EntityId)
  | upsert (docs : List Document)
  | tombstone (ids : List EntityId)
  | enqueue (entity : EntityId) (tag : String) (schedule : Schedule)
  | begin (tx : String)
  | stage (tx : String) (entity : EntityId) (tag : String) (schedule : Schedule)
  | stageRaw (tx : String) (tag : String) (payload : Json) (schedule : Schedule)
  | stageBatch (tx : String) (entities : List EntityId) (tag : String) (schedule : Schedule)
  | commitTransaction (tx : String)
  | dropTransaction (tx : String)
  | advance (millis : Int)
  | claim (name : String) (limit : Int)
  | delete (claim : String) (tasks : List TaskId)
  | quarantine (claim : String) (task : TaskId) (reason : String)
  | commitClaim (claim : String)
  | rollback (claim : String)
  | dropClaim (claim : String)
  | tasks
  | deadLetters
  | limit
  | reconcile
  | index (ids : List EntityId)
  | indexPlain (ids : List EntityId)
  deriving DecidableEq

/-- What a command shows. -/
inductive Answer
  | done
  | primaryStatuses (t : Table EntityId PrimaryStatus)
  | indexStatuses (t : Table EntityId IndexStatus)
  | entities (es : List Entity)
  | ids (ids : List EntityId)
  | task (id : TaskId)
  | taskIds (ids : List TaskId)
  | tasks (ts : List Task)
  | deadLetters (ds : List Memory.DeadLetter)
  | document (s : Option Memory.Stored)
  | calls (upserts tombstones : List (List EntityId))
  | limit (n : Int)
  | report (r : Reconciler.Report)
  | outcome (o : Indexer.Outcome)
  deriving DecidableEq

end Outbox.Simulation
