import Outbox.Disposition
import Outbox.Indexer
import Outbox.Registry

/-!
# Reconciling

One tick claims due tasks, compares the entities they name in store and index, indexes those that
differ, and deletes the tasks.  It is one unit of work inside one claim: an error before the commit
rolls the claim back, and every task comes back with the next tick.  The write to the index is not
part of the claim; when the tick fails after it, the tasks come back and find nothing left to do.
-/

namespace Outbox

/-- The services a reconciler works with, and its settings. -/
structure Reconciler (σ κ : Type) where
  queue : TaskQueue σ κ
  store : PrimaryStore σ
  index : SearchIndex σ
  enrich : Transform
  registry : Registry
  limit : Int

namespace Reconciler

/-- What a tick did. -/
structure Report where
  claimed : Nat
  obsolete : Nat
  alreadyConsistent : Nat
  needsIndex : Nat
  /-- Entities handed to the indexer, each counted once. -/
  indexedEntities : Nat
  quarantined : Nat
  deriving DecidableEq

/-- Nothing was done. -/
def Report.idle : Report := ⟨0, 0, 0, 0, 0, 0⟩

/-- The tasks that the tick took from the queue. -/
def Report.resolved (r : Report) : Nat :=
  r.obsolete + r.alreadyConsistent + r.needsIndex + r.quarantined

/-! ### What claimed tasks ask for -/

/-- The tasks that cannot be read, with the reason. -/
def malformed (registry : Registry) (tasks : List Task) : List (Task × String) :=
  tasks.filterMap fun t =>
    match registry.read t.tag t.payload with
    | .ok _ => none
    | .error reason => some (t, reason)

/-- The tasks that can be read, with the entity each names. -/
def references (registry : Registry) (tasks : List Task) : List (TaskId × EntityId) :=
  tasks.filterMap fun t =>
    match registry.read t.tag t.payload with
    | .ok p => some (t.id, p.entity)
    | .error _ => none

/-- The entities named, each once. -/
def referenced (refs : List (TaskId × EntityId)) : List EntityId := distinct (refs.map Prod.snd)

/-- How many tasks name an entity of a given disposition. -/
def count (refs : List (TaskId × EntityId)) (verdict : EntityId → Disposition)
    (d : Disposition) : Nat :=
  refs.countP fun r => verdict r.2 = d

/-- The entities to index, each once, where a task first names it. -/
def stale (refs : List (TaskId × EntityId)) (verdict : EntityId → Disposition) : List EntityId :=
  distinct ((refs.map Prod.snd).filter fun e => verdict e = .needsIndex)

/-- The report of a tick whose entities were judged so. -/
def report (registry : Registry) (tasks : List Task) (verdict : EntityId → Disposition) : Report :=
  let refs := references registry tasks
  { claimed := tasks.length
    obsolete := count refs verdict .obsolete
    alreadyConsistent := count refs verdict .alreadyConsistent
    needsIndex := count refs verdict .needsIndex
    indexedEntities := (stale refs verdict).length
    quarantined := (malformed registry tasks).length }

/-! ### A tick -/

variable {σ κ : Type}

/-- Sets aside the tasks that cannot be read. -/
def setAside (queue : TaskQueue σ κ) (claim : κ) : List (Task × String) → Action σ κ
  | [] => pure claim
  | (t, reason) :: rest => do
    let claim ← queue.quarantine claim t reason
    setAside queue claim rest

/-- Does what the claimed tasks ask for, up to deleting them: gives the claim as it stands then, and
the report.

The store is read before the index here, while the two reads may just as well be made side by side.
Neither writes anything and neither sees what the other read, and nothing is judged before both have
succeeded; so their order shows only in what was sent when one of them failed.  A failing index read may
then have cancelled the read of the store, which here was made, and after a failing store read the index
is not asked here.  In either case the tick has written nothing to the index and rolls its claim back,
and the error that it ends with is that of a read that failed: what is shown of a failed tick is this, and
not what was sent to the one service while the other failed. -/
def resolve (r : Reconciler σ κ) (claim : κ) (tasks : List Task) : Action σ (κ × Report) := do
  let claim ← setAside r.queue claim (malformed r.registry tasks)
  let refs := references r.registry tasks
  let primary ← r.store.statuses (referenced refs)
  let index ← r.index.statuses (referenced refs)
  let verdict := classify primary index
  let todo := stale refs verdict
  if !todo.isEmpty then
    let _ ← Indexer.run r.store r.index r.enrich todo
  pure (claim, report r.registry tasks verdict)

/-- Ends a claim on which a step failed. -/
def orAbandon {α : Type} (queue : TaskQueue σ κ) (claim : κ) (step : Action σ α) : Action σ α := do
  match ← step.attempt with
  | .ok a => pure a
  | .error e => do
    Action.change fun s => ((), queue.abandon claim s)
    throw e

/-- One tick. -/
def tick (r : Reconciler σ κ) : Action σ Report := do
  let claim ← r.queue.claimDue r.limit
  let tasks := r.queue.tasks claim
  if tasks.isEmpty then do
    Action.change fun s => ((), r.queue.abandon claim s)
    pure .idle
  else
    match ← (r.resolve claim tasks).attempt with
    | .ok (resolved, report) => do
      let done := (references r.registry tasks).map Prod.fst
      let ready ← orAbandon r.queue resolved (r.queue.delete resolved done)
      r.queue.commit ready
      pure report
    | .error e => do
      let _ ← (r.queue.rollback claim).attempt
      throw e

end Reconciler

end Outbox
