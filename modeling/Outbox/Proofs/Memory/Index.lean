import Outbox.Memory.Index
import Outbox.Proofs.Action
import Outbox.Proofs.Table

/-!
# Writing to the search index in memory

The view of the index is `stored?`.  A write call is said by what it leaves behind (`afterUpsert`,
`afterTombstone`) and by what it answers (`verdict`): the batch is written as far as it is not
rejected, and the call fails if any of it was.

* `exec_upsert`, `exec_tombstone` — the two calls, for every state of the index;
* `stored?_afterUpsert_of_mem`, `stored?_afterTombstone` — what the identifiers of a batch hold
  afterwards, and `stored?_afterUpsert_of_notMem` that nothing else changes.
-/

namespace Outbox.Memory.Index

open Outbox.Time

/-- The index after a call that wrote documents. -/
def afterUpsert (x : Index) (docs : List Document) : Index :=
  { x with upserts := x.upserts ++ [docs.map Document.id] }.store
    (docs.map fun d : Document => (d.id, .live d))

/-- The index after a call that wrote tombstones. -/
def afterTombstone (x : Index) (ids : List EntityId) : Index :=
  { x with tombstones := x.tombstones ++ [ids] }.store (ids.map fun i => (i, .tombstone))

/-- What a write call for some identifiers answers while the index is up. -/
def verdict (x : Index) (ids : List EntityId) : Except Error Unit :=
  match x.refused ids with
  | [] => .ok ()
  | failed => .error (.partialBatchFailure failed)

/-- What every call answers while the index is down. -/
def down : Error := .index 503 "service unavailable"

theorem verdict_eq_ok_iff {x : Index} {ids : List EntityId} :
    x.verdict ids = .ok () ↔ ∀ i ∈ ids, i ∉ x.rejected := by
  unfold verdict
  split
  · rename_i h
    rw [refused, List.filter_eq_nil_iff] at h
    simpa using h
  · rename_i h
    rw [refused, List.filter_eq_nil_iff] at h
    simpa using h

/-! ### Calls -/

theorem exec_writeBatch (entries : List (EntityId × Stored)) (x : Index) :
    (writeBatch entries).exec x = (x.verdict (entries.map Prod.fst), x.store entries) := by
  rw [writeBatch, Action.exec_ofFun, verdict]
  cases x.refused (entries.map Prod.fst) with
  | nil => rfl
  | cons i failed => rfl

theorem exec_statuses (ids : List EntityId) (x : Index) :
    (backend.statuses ids).exec x
      = if x.available then (.ok (x.statuses ids), x) else (.error down, x) := rfl

theorem exec_upsert (docs : List Document) (x : Index) :
    (backend.upsert docs).exec x
      = if x.available then (x.verdict (docs.map Document.id), x.afterUpsert docs)
        else (.error down, x) := by
  show (if x.available then
      (writeBatch _).exec { x with upserts := x.upserts ++ [docs.map Document.id] } else _) = _
  rw [exec_writeBatch, List.map_map]
  rfl

theorem exec_tombstone (ids : List EntityId) (x : Index) :
    (backend.tombstone ids).exec x
      = if x.available then (x.verdict ids, x.afterTombstone ids) else (.error down, x) := by
  show (if x.available then
      (writeBatch _).exec { x with tombstones := x.tombstones ++ [ids] } else _) = _
  rw [exec_writeBatch, List.map_map,
    show (Prod.fst ∘ fun i : EntityId => (i, Stored.tombstone)) = id from rfl, List.map_id]
  rfl

/-! ### What is held afterwards -/

theorem find?_statuses (x : Index) (ids : List EntityId) (i : EntityId) :
    Table.find? (x.statuses ids) i = if i ∈ ids then (x.stored? i).map Stored.status else none := by
  have hgraph := Table.find?_ofList_graph (fun i => (x.stored? i).map Stored.status) ids i
  simpa only [statuses, Option.map_map, Function.comp_def] using hgraph

/-- What is answered depends on nothing but what is held. -/
theorem statuses_congr {x x' : Index} (h : ∀ i, x.stored? i = x'.stored? i) (ids : List EntityId) :
    x.statuses ids = x'.statuses ids := by
  rw [statuses, statuses, funext h]

/-- What is not rejected of a batch is looked into before what was held, its last entry first. -/
theorem stored?_store (x : Index) (entries : List (EntityId × Stored)) (i : EntityId) :
    (x.store entries).stored? i
      = (Table.find? (entries.filter fun e => e.1 ∉ x.rejected).reverse i).or (x.stored? i) := by
  rw [store, stored?, Table.find?_foldl_insert, Table.find?_append]
  rfl

theorem stored?_store_of_notMem {x : Index} {entries : List (EntityId × Stored)} {i : EntityId}
    (h : i ∈ x.rejected ∨ i ∉ entries.map Prod.fst) :
    (x.store entries).stored? i = x.stored? i := by
  rw [stored?_store, Table.find?_eq_none_iff.mpr, Option.none_or]
  intro hi
  obtain ⟨e, he, rfl⟩ := List.mem_map.mp hi
  obtain ⟨he, hrej⟩ := List.mem_filter.mp (List.mem_reverse.mp he)
  cases h with
  | inl h => exact (of_decide_eq_true hrej) h
  | inr h => exact h (List.mem_map.mpr ⟨e, he, rfl⟩)

/-- What is written is one of the entries of the batch. -/
theorem stored?_store_of_mem {x : Index} {entries : List (EntityId × Stored)} {i : EntityId}
    (hrej : i ∉ x.rejected) (hmem : i ∈ entries.map Prod.fst) :
    ∃ v, (i, v) ∈ entries ∧ (x.store entries).stored? i = some v := by
  rw [stored?_store]
  cases h : Table.find? (entries.filter fun e => e.1 ∉ x.rejected).reverse i with
  | some v =>
      have hv := List.mem_reverse.mp (Table.mem_of_find? h)
      exact ⟨v, (List.mem_filter.mp hv).1, rfl⟩
  | none =>
      obtain ⟨e, he, rfl⟩ := List.mem_map.mp hmem
      refine absurd (List.mem_map.mpr ⟨e, ?_, rfl⟩) (Table.find?_eq_none_iff.mp h)
      exact List.mem_reverse.mpr (List.mem_filter.mpr ⟨he, decide_eq_true hrej⟩)

theorem stored?_afterUpsert_of_notMem {x : Index} {docs : List Document} {i : EntityId}
    (h : i ∈ x.rejected ∨ i ∉ docs.map Document.id) :
    (x.afterUpsert docs).stored? i = x.stored? i := by
  rw [afterUpsert, stored?_store_of_notMem]
  · rfl
  · simpa only [List.map_map, Function.comp_def] using h

/-- **Documents.**  An identifier that is not rejected holds a document of the batch it is in. -/
theorem stored?_afterUpsert_of_mem {x : Index} {docs : List Document} {i : EntityId}
    (hrej : i ∉ x.rejected) (hmem : i ∈ docs.map Document.id) :
    ∃ d ∈ docs, d.id = i ∧ (x.afterUpsert docs).stored? i = some (.live d) := by
  have hmem' : i ∈ (docs.map fun d : Document => (d.id, Stored.live d)).map Prod.fst := by
    simpa only [List.map_map, Function.comp_def] using hmem
  obtain ⟨v, hv, hstored⟩ := stored?_store_of_mem
    (x := { x with upserts := x.upserts ++ [docs.map Document.id] }) hrej hmem'
  obtain ⟨d, hd, heq⟩ := List.mem_map.mp hv
  cases heq
  exact ⟨d, hd, rfl, hstored⟩

/-- **Tombstones.**  An identifier that is not rejected holds a tombstone if it is in the batch. -/
theorem stored?_afterTombstone (x : Index) (ids : List EntityId) (i : EntityId) :
    (x.afterTombstone ids).stored? i
      = if i ∈ ids ∧ i ∉ x.rejected then some .tombstone else x.stored? i := by
  have hkeys : (ids.map fun j => (j, Stored.tombstone)).map Prod.fst = ids := by
    simp only [List.map_map, Function.comp_def, List.map_id']
  split
  · rename_i h
    obtain ⟨v, hv, hstored⟩ := stored?_store_of_mem
      (x := { x with tombstones := x.tombstones ++ [ids] }) h.2 (hkeys ▸ h.1)
    obtain ⟨j, _, heq⟩ := List.mem_map.mp hv
    cases heq
    exact hstored
  · rename_i h
    rw [afterTombstone, stored?_store_of_notMem]
    · rfl
    · rw [hkeys]
      exact (not_and_or.mp h).symm.imp_left not_not.mp

/-! ### Versions -/

/-- The index holds a live document of that version. -/
def HasVersion (x : Index) (i : EntityId) (v : Timestamp) : Prop :=
  ∃ d, x.stored? i = some (.live d) ∧ d.updated = v

theorem HasVersion.congr {x x' : Index} {i : EntityId} {v : Timestamp}
    (h : x'.stored? i = x.stored? i) : x'.HasVersion i v ↔ x.HasVersion i v := by
  rw [HasVersion, HasVersion, h]

theorem hasVersion_iff_status {x : Index} {i : EntityId} {v : Timestamp} :
    x.HasVersion i v ↔ ∃ st, (x.stored? i).map Stored.status = some st ∧ st.updated = some v := by
  cases h : x.stored? i with
  | none => simp [HasVersion, h]
  | some held =>
      cases held with
      | live d => simp [HasVersion, h, Stored.status]
      | tombstone => simp [HasVersion, h, Stored.status]

instance (x : Index) (i : EntityId) (v : Timestamp) : Decidable (x.HasVersion i v) :=
  decidable_of_iff (((x.stored? i).map Stored.status).any fun st => st.updated = some v) (by
    rw [hasVersion_iff_status, Option.any_eq_true]
    simp)

end Outbox.Memory.Index
