import Outbox.Backend

/-!
# The primary store in memory

Entities by identifier, each at its own (`Store.keyed`).  The store can be taken down, and then every
read fails as if no connection came free.
-/

namespace Outbox.Memory

open Outbox.Time

/-- The entities, and whether they can be read. -/
structure Store where
  entities : Table EntityId Entity
  available : Bool
  /-- An entity stands at its own identifier. -/
  keyed : ∀ p ∈ entities, p.2.id = p.1
  deriving DecidableEq

namespace Store

/-- No entities yet. -/
def empty : Store := ⟨[], true, fun _ h => nomatch h⟩

/-- Takes in an entity, in place of one of the same identifier. -/
def put (s : Store) (e : Entity) : Store where
  entities := Table.insert s.entities e.id e
  available := s.available
  keyed p h := (Table.mem_of_mem_insert h).elim (fun h => h ▸ rfl) (s.keyed p)

/-- Takes in a live entity; a body that is no object is empty. -/
def putLive (s : Store) (id : EntityId) (updated : Timestamp) (body : Json) : Store :=
  s.put ⟨id, updated, false, body.members⟩

/-- Flags an entity as deleted, if there is one. -/
def markDeleted (s : Store) (id : EntityId) : Store :=
  match Table.find? s.entities id with
  | some e => s.put { e with deleted := true }
  | none => s

/-- Removes an entity. -/
def remove (s : Store) (id : EntityId) : Store where
  entities := Table.erase s.entities id
  available := s.available
  keyed p h := s.keyed p (List.mem_filter.mp h).1

/-- Takes the store down, or brings it back. -/
def setAvailable (s : Store) (available : Bool) : Store := { s with available := available }

/-- The projections of the entities that exist. -/
def statuses (s : Store) (ids : List EntityId) : Table EntityId PrimaryStatus :=
  Table.ofList (ids.filterMap fun i => (Table.find? s.entities i).map fun e => (i, e.status))

/-- The entities that exist, as often and in the order asked for. -/
def fetch (s : Store) (ids : List EntityId) : List Entity :=
  ids.filterMap (Table.find? s.entities)

/-- The entities of a range of versions, by version, and those of one version by identifier. -/
def updatedBetween (s : Store) (start stop : Timestamp) : List EntityId :=
  let inside := (s.entities.map Prod.snd).filter fun e => start ≤ e.updated && e.updated ≤ stop
  (inside.mergeSort fun a b => a.updated ≤ b.updated).map Entity.id

/-- A read that fails while the store is down. -/
def read {α : Type} (view : Store → α) : Action Store α :=
  Action.ofView fun s => if s.available then .ok (view s) else .error (.database .poolTimedOut)

/-- The store as the reconciler uses it. -/
def backend : PrimaryStore Store where
  statuses ids := read fun s => s.statuses ids
  entities ids := read fun s => s.fetch ids
  updatedBetween start stop := read fun s => s.updatedBetween start stop

end Store

end Outbox.Memory
