import Outbox.Proofs.Memory.Index
import Outbox.Proofs.Memory.Queue
import Outbox.Proofs.Memory.Store
import Outbox.Simulation.World

/-!
# The services of a simulation in memory

What each call of the reconciler does to the world when queue, store and index are in memory.  A
call answers from one part of the world, and the other parts stay as they are.

* `exec_statuses`, `exec_entities` — reads of the store, which fail while it is down;
* `exec_indexStatuses`, `exec_indexUpsert`, `exec_indexTombstone` — the calls to the index;
* `exec_setAside` — what is asked for under a claim changes nothing but the claim.
-/

namespace Outbox.Simulation

open Outbox.Memory

variable (enrich : Transform) (registry : Registry) (limit : Int) (w : World Index)

/-- What a read of the store answers. -/
def World.read {α : Type} (w : World Index) (a : α) : Except Error α :=
  if w.store.available then .ok a else .error (.database .poolTimedOut)

theorem exec_statuses (ids : List EntityId) :
    ((Setup.inMemory enrich registry limit).reconciler.store.statuses ids).exec w
      = (w.read (w.store.statuses ids), w) := rfl

theorem exec_entities (ids : List EntityId) :
    ((Setup.inMemory enrich registry limit).reconciler.store.entities ids).exec w
      = (w.read (w.store.fetch ids), w) := rfl

theorem exec_indexStatuses (ids : List EntityId) :
    ((Setup.inMemory enrich registry limit).reconciler.index.statuses ids).exec w
      = if w.index.available then (.ok (w.index.statuses ids), w) else (.error Index.down, w) := by
  show (((Index.backend.statuses ids).exec w.index).1,
    { w with index := ((Index.backend.statuses ids).exec w.index).2 }) = _
  rw [Index.exec_statuses]
  split <;> rfl

theorem exec_indexUpsert (docs : List Document) :
    ((Setup.inMemory enrich registry limit).reconciler.index.upsert docs).exec w
      = if w.index.available then
          (w.index.verdict (docs.map Document.id), { w with index := w.index.afterUpsert docs })
        else (.error Index.down, w) := by
  show (((Index.backend.upsert docs).exec w.index).1,
    { w with index := ((Index.backend.upsert docs).exec w.index).2 }) = _
  rw [Index.exec_upsert]
  split <;> rfl

theorem exec_indexTombstone (ids : List EntityId) :
    ((Setup.inMemory enrich registry limit).reconciler.index.tombstone ids).exec w
      = if w.index.available then
          (w.index.verdict ids, { w with index := w.index.afterTombstone ids })
        else (.error Index.down, w) := by
  show (((Index.backend.tombstone ids).exec w.index).1,
    { w with index := ((Index.backend.tombstone ids).exec w.index).2 }) = _
  rw [Index.exec_tombstone]
  split <;> rfl

theorem exec_setAside (c : Claim) (bad : List (Task × String)) :
    (Reconciler.setAside (Setup.inMemory enrich registry limit).reconciler.queue c bad).exec w
      = (.ok (c.setAside bad), w) := by
  induction bad generalizing c with
  | nil => rfl
  | cons p bad ih =>
      rw [Reconciler.setAside, Action.exec_bind]
      exact ih (c.quarantine p.1 p.2)

end Outbox.Simulation
