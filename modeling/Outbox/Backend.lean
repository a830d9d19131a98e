import Outbox.Action
import Outbox.Entity
import Outbox.Task

/-!
# Backends

What the reconciler asks of the three services it works with: the queue of tasks, the primary store
and the search index.  Each is a record of actions on a state, so that one reconciler serves them all,
in memory or over a connection.
-/

namespace Outbox

open Outbox.Time

/-- The store that owns the entities, read in bulk.  Identifiers that do not exist are left out. -/
structure PrimaryStore (σ : Type) where
  /-- Versions and flags. -/
  statuses : List EntityId → Action σ (Table EntityId PrimaryStatus)
  /-- Whole entities. -/
  entities : List EntityId → Action σ (List Entity)
  /-- Entities whose version lies between two moments, both included. -/
  updatedBetween : Timestamp → Timestamp → Action σ (List EntityId)

/-- The index that is kept consistent with the store. -/
structure SearchIndex (σ : Type) where
  /-- Versions and flags of documents. -/
  statuses : List EntityId → Action σ (Table EntityId IndexStatus)
  /-- Writes live documents. -/
  upsert : List Document → Action σ Unit
  /-- Marks documents as deleted. -/
  tombstone : List EntityId → Action σ Unit

/-- A queue from which consumers claim tasks; `κ` is a claim that is open.  What is done under a claim
takes effect when it is committed, and a claim that ends in another way gives its tasks back. -/
structure TaskQueue (σ κ : Type) where
  /-- Locks up to that many due tasks, those enqueued first, and passes over locked ones. -/
  claimDue : Int → Action σ κ
  /-- The tasks of a claim, in the order of the queue. -/
  tasks : κ → List Task
  /-- Will delete tasks of the claim. -/
  delete : κ → List TaskId → Action σ κ
  /-- Will move a task to the dead letters, for a reason. -/
  quarantine : κ → Task → String → Action σ κ
  /-- Carries out what was asked for and unlocks. -/
  commit : κ → Action σ Unit
  /-- Forgets what was asked for and unlocks. -/
  rollback : κ → Action σ Unit
  /-- Ends a claim that nobody holds any more. -/
  abandon : κ → σ → σ

/-! ### The same services inside a larger state -/

variable {σ τ κ : Type}

/-- The store as a part of a larger state. -/
def PrimaryStore.within (p : Part σ τ) (b : PrimaryStore τ) : PrimaryStore σ where
  statuses ids := (b.statuses ids).within p
  entities ids := (b.entities ids).within p
  updatedBetween start stop := (b.updatedBetween start stop).within p

/-- The index as a part of a larger state. -/
def SearchIndex.within (p : Part σ τ) (b : SearchIndex τ) : SearchIndex σ where
  statuses ids := (b.statuses ids).within p
  upsert docs := (b.upsert docs).within p
  tombstone ids := (b.tombstone ids).within p

/-- The queue as a part of a larger state. -/
def TaskQueue.within (p : Part σ τ) (b : TaskQueue τ κ) : TaskQueue σ κ where
  claimDue limit := (b.claimDue limit).within p
  tasks := b.tasks
  delete c ids := (b.delete c ids).within p
  quarantine c t reason := (b.quarantine c t reason).within p
  commit c := (b.commit c).within p
  rollback c := (b.rollback c).within p
  abandon c s := p.set s (b.abandon c (p.get s))

end Outbox
