import Outbox.Database.Endpoint
import Outbox.Database.Queue
import Outbox.Database.Store

/-!
# Administration of the database

Connecting, creating the tables of the queue, the health check, and queueing every entity of a range
of dates in one transaction, so that the whole range is queued or none of it.
-/

namespace Outbox.Database

open Outbox.Time

/-- Makes the connection to an endpoint, over which the script answers. -/
def connect (network : Network) (e : Endpoint) (s : Script) : Except Error Connection :=
  match network.reach e.target with
  | .ok () => .ok (.ofScript s)
  | .error obstacle => .error (.database (.unreachable obstacle.message))

/-- Makes the connection that a URL asks for, and the variables where it leaves something open. -/
def connectTo (network : Network) (env : Environment) (url : String) (s : Script) :
    Except Error Connection :=
  match Endpoint.ofText env url with
  | .error fault => .error (.database (.configuration fault.message))
  | .ok e => connect network e s

/-- An error of the database met while tables were being created. -/
def asMigrationError : Error → Error
  | .database failure => .migration failure
  | e => e

/-- Creates the tables of the queue. -/
def migrate : Action Script Unit :=
  Action.ofFun fun s =>
    let steps : Action Script Unit := do
      Script.begin
      Script.orAbandon (Script.simple .migration)
      Script.commit
    match steps.exec s with
    | (.ok (), s) => (.ok (), s)
    | (.error e, s) => (.error (asMigrationError e), s)

/-- Asks for nothing, to see whether the database answers. -/
def health : Action Script Unit := Script.execute .health

/-- Queues every entity with a version between two moments, and gives their number. -/
def reindexDate (table : TableName) (fresh : Nat → TaskId) (start stop : Timestamp) :
    Action Connection Nat := do
  if stop < start then
    throw (.other ("reindex range ends (" ++ stop.plain ++ ") before it starts (" ++
      start.plain ++ ")"))
  else
    let ids ← Store.updatedBetween table start stop
    Action.within Connection.scriptPart do
      Script.begin
      let queued ← Script.orAbandon (Queue.enqueueBatch fresh ids reindexDateTag none)
      Script.commit
      pure queued.length

end Outbox.Database
