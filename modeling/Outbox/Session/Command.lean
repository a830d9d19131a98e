import Outbox.Database.Admin
import Outbox.Simulation.Command

/-!
# Commands of a database session

What can be done over one connection to the database: producing and consuming tasks, reading the
primary store, administration, and reconciling with an index of any kind.
-/

namespace Outbox.Session

open Outbox.Time

/-- One thing that is done. -/
inductive Command
  | health
  | migrate
  | stats
  | begin (tx : String)
  | insert (tx : String) (entity : EntityId) (tag : String) (scheduledAt : Option Timestamp)
  | insertRaw (tx : String) (tag : String) (payload : Json) (scheduledAt : Option Timestamp)
  | insertBatch (tx : String) (entities : List EntityId) (tag : String)
      (scheduledAt : Option Timestamp)
  | commitTransaction (tx : String)
  | dropTransaction (tx : String)
  | claim (name : String) (limit : Int)
  | delete (claim : String) (tasks : List TaskId)
  /-- Sets aside the task at a position of the claim. -/
  | quarantine (claim : String) (position : Nat) (reason : String)
  | commitClaim (claim : String)
  | rollback (claim : String)
  | dropClaim (claim : String)
  | table
  /-- Opens a store over another table, to see whether its name is let through. -/
  | openStore (name : String)
  | updatedColumn
  | primaryStatuses (ids : List EntityId)
  | entities (ids : List EntityId)
  | updatedBetween (start stop : Timestamp)
  | onIndex (c : Simulation.IndexCommand)
  | indexStatuses (ids : List EntityId)
  | reconcile
  | index (ids : List EntityId)
  | reindexDate (start stop : Timestamp)
  deriving DecidableEq

/-- What a command shows. -/
inductive Answer
  | common (a : Simulation.Answer)
  | stats (s : Database.Stats)
  | claimed (ts : List Task)
  | name (s : String)
  | column (c : Database.UpdatedColumn)
  | count (n : Nat)
  deriving DecidableEq

/-- Nothing to show. -/
def Answer.done : Answer := .common .done

end Outbox.Session
