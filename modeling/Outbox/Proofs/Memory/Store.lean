import Outbox.Memory.Store
import Outbox.Proofs.Action
import Outbox.Proofs.Table

/-!
# Reading the primary store in memory

The view of the store is `entity?`; every operation and every read is said through it.

* `entity?_put`, `entity?_markDeleted`, `entity?_remove` — what a change does to one identifier;
* `find?_statuses`, `mem_fetch` — what the two reads of a tick give for the identifiers asked for.
-/

namespace Outbox.Memory.Store

/-- The entity of an identifier. -/
def entity? (s : Store) (id : EntityId) : Option Entity := Table.find? s.entities id

theorem id_of_entity? {s : Store} {id : EntityId} {e : Entity} (h : s.entity? id = some e) :
    e.id = id :=
  s.keyed (id, e) (Table.mem_of_find? h)

/-! ### Changes -/

theorem entity?_put (s : Store) (e : Entity) (id : EntityId) :
    (s.put e).entity? id = if e.id = id then some e else s.entity? id :=
  Table.find?_insert s.entities e.id id e

/-- A flag that is set keeps the version; an entity that does not exist is not made. -/
theorem entity?_markDeleted (s : Store) (id id' : EntityId) :
    (s.markDeleted id).entity? id'
      = if id = id' then (s.entity? id).map fun e => { e with deleted := true }
        else s.entity? id' := by
  unfold markDeleted
  split
  · rename_i e he
    have hid : e.id = id := id_of_entity? he
    have he' : s.entity? id = some e := he
    rw [entity?_put, he', Option.map_some, hid]
  · rename_i hnone
    have hnone' : s.entity? id = none := hnone
    rw [hnone']
    split
    · rename_i h
      rw [← h, hnone']
      rfl
    · rfl

theorem entity?_remove (s : Store) (id id' : EntityId) :
    (s.remove id).entity? id' = if id = id' then none else s.entity? id' :=
  Table.find?_erase s.entities id id'

/-! ### Reads -/

theorem find?_statuses (s : Store) (ids : List EntityId) (id : EntityId) :
    Table.find? (s.statuses ids) id
      = if id ∈ ids then (s.entity? id).map Entity.status else none := by
  have hgraph := Table.find?_ofList_graph (fun i => (s.entity? i).map Entity.status) ids id
  simpa only [statuses, entity?, Option.map_map, Function.comp_def] using hgraph

/-- Reads depend on the entities, and not on whether they can be read. -/
theorem statuses_congr {s s' : Store} (h : s.entities = s'.entities) (ids : List EntityId) :
    s.statuses ids = s'.statuses ids := by
  rw [statuses, statuses, h]

theorem fetch_congr {s s' : Store} (h : s.entities = s'.entities) (ids : List EntityId) :
    s.fetch ids = s'.fetch ids := by
  rw [fetch, fetch, h]

theorem mem_fetch {s : Store} {ids : List EntityId} {e : Entity} :
    e ∈ s.fetch ids ↔ e.id ∈ ids ∧ s.entity? e.id = some e := by
  rw [fetch, List.mem_filterMap]
  constructor
  · rintro ⟨id, hid, he⟩
    have heq : e.id = id := id_of_entity? he
    subst heq
    exact ⟨hid, he⟩
  · rintro ⟨hid, he⟩
    exact ⟨e.id, hid, he⟩

end Outbox.Memory.Store
