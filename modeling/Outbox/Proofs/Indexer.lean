import Outbox.Proofs.Distinct
import Outbox.Proofs.Memory.Index
import Outbox.Proofs.Memory.Store

/-!
# What is planned and written

A plan is made from what the store gave for some identifiers: those that are live there get their
document, and the others a tombstone.

* `mem_documents`, `mem_tombstoned` — the two parts of a plan that was read from a store in memory;
* `exec_write_of_documents` — where nothing is to be tombstoned, writing is one call.
-/

namespace Outbox

open Outbox.Memory

namespace Memory.Store

/-- The entity of an identifier, unless it is flagged as deleted. -/
def live? (s : Store) (id : EntityId) : Option Entity :=
  (s.entity? id).filter fun e => !e.deleted

theorem live?_eq_some {s : Store} {id : EntityId} {e : Entity} :
    s.live? id = some e ↔ s.entity? id = some e ∧ e.deleted = false := by
  rw [live?, Option.filter_eq_some_iff, Bool.not_eq_true']

theorem id_of_live? {s : Store} {id : EntityId} {e : Entity} (h : s.live? id = some e) :
    e.id = id :=
  id_of_entity? (live?_eq_some.mp h).1

theorem live?_congr {s s' : Store} (h : s.entities = s'.entities) (id : EntityId) :
    s.live? id = s'.live? id := by
  rw [live?, live?, entity?, entity?, h]

end Memory.Store

namespace Indexer

@[simp] theorem document_id (enrich : Transform) (e : Entity) : (document enrich e).id = e.id := rfl

@[simp] theorem document_updated (enrich : Transform) (e : Entity) :
    (document enrich e).updated = e.updated := rfl

/-! ### Plans -/

variable {enrich : Transform} {ids : List EntityId} {s : Store}

/-- **Documents.**  Each is that of an entity which was asked for and is live. -/
theorem mem_documents {d : Document} :
    d ∈ (plan enrich ids (s.fetch ids)).documents ↔
      ∃ i ∈ ids, ∃ e, s.live? i = some e ∧ d = document enrich e := by
  rw [plan, List.mem_map]
  constructor
  · rintro ⟨e, he, rfl⟩
    obtain ⟨he, hlive⟩ := List.mem_filter.mp he
    obtain ⟨hid, he⟩ := Store.mem_fetch.mp he
    exact ⟨e.id, hid, e, Store.live?_eq_some.mpr ⟨he, by simpa using hlive⟩, rfl⟩
  · rintro ⟨i, hi, e, he, rfl⟩
    obtain ⟨hentity, hlive⟩ := Store.live?_eq_some.mp he
    obtain rfl := Store.id_of_live? he
    have hfetch := Store.mem_fetch.mpr ⟨hi, hentity⟩
    exact ⟨e, List.mem_filter.mpr ⟨hfetch, by rw [hlive]; rfl⟩, rfl⟩

theorem mem_documents_ids {i : EntityId} :
    i ∈ (plan enrich ids (s.fetch ids)).documents.map Document.id ↔
      i ∈ ids ∧ (s.live? i).isSome = true := by
  rw [List.mem_map, Option.isSome_iff_exists]
  constructor
  · rintro ⟨d, hd, rfl⟩
    obtain ⟨j, hj, e, he, rfl⟩ := mem_documents.mp hd
    rw [document_id, Store.id_of_live? he]
    exact ⟨hj, e, he⟩
  · rintro ⟨hi, e, he⟩
    exact ⟨document enrich e, mem_documents.mpr ⟨i, hi, e, he, rfl⟩, Store.id_of_live? he⟩

/-- The documents of a plan follow the identifiers that it was made for. -/
theorem documents_ids (enrich : Transform) (ids : List EntityId) (s : Store) :
    (plan enrich ids (s.fetch ids)).documents.map Document.id
      = ids.filter fun i => (s.live? i).isSome := by
  have hdocs : (plan enrich ids (s.fetch ids)).documents.map Document.id
      = ((s.fetch ids).filter fun e => !e.deleted).map Entity.id := by
    rw [plan, List.map_map]
    rfl
  rw [hdocs]
  clear hdocs
  induction ids with
  | nil => rfl
  | cons i ids ih =>
      have hfetch : s.fetch (i :: ids) = (s.entity? i).toList ++ s.fetch ids := by
        rw [Store.fetch, List.filterMap_cons, Store.entity?]
        cases Table.find? s.entities i with
        | none => rfl
        | some e => rfl
      rw [hfetch, List.filter_append, List.map_append, ih]
      cases he : s.entity? i with
      | none => simp [Store.live?, he]
      | some e =>
          have hid : e.id = i := Store.id_of_entity? he
          cases hdel : e.deleted with
          | true => simp [Store.live?, he, hdel, Option.filter]
          | false => simp [Store.live?, he, hdel, Option.filter, hid]

/-- **Tombstones.**  They are for the identifiers that were asked for and are not live. -/
theorem mem_tombstoned {i : EntityId} :
    i ∈ (plan enrich ids (s.fetch ids)).tombstoned ↔ i ∈ ids ∧ s.live? i = none := by
  have hdocs : i ∈ ((s.fetch ids).filter fun e => !e.deleted).map Entity.id ↔
      i ∈ (plan enrich ids (s.fetch ids)).documents.map Document.id := by
    rw [plan, List.map_map]
    rfl
  have htombs : i ∈ (plan enrich ids (s.fetch ids)).tombstoned ↔
      i ∈ ids ∧ i ∉ ((s.fetch ids).filter fun e => !e.deleted).map Entity.id := by
    rw [plan, List.mem_filter, decide_eq_true_eq]
  rw [htombs, hdocs, mem_documents_ids, ← Option.not_isSome_iff_eq_none]
  constructor
  · rintro ⟨hi, hnot⟩
    exact ⟨hi, fun h => hnot ⟨hi, h⟩⟩
  · rintro ⟨hi, hnot⟩
    exact ⟨hi, fun h => hnot h.2⟩

/-! ### Writing -/

/-- A plan without tombstones is one call. -/
theorem exec_write_of_documents {σ : Type} {index : SearchIndex σ} {p : Plan} {s : σ}
    (hdocs : p.documents ≠ []) (htombs : p.tombstoned = []) :
    (write index p).exec s = (index.upsert p.documents).exec s := by
  have hempty : p.documents.isEmpty = false := by
    rw [List.isEmpty_eq_false_iff]
    exact hdocs
  rw [write, htombs, hempty]
  show ((index.upsert p.documents) >>= fun _ => pure ()).exec s = _
  rw [Action.exec_bind]
  cases (index.upsert p.documents).exec s with
  | mk r s' =>
      cases r with
      | ok u => rfl
      | error e => rfl

end Indexer

end Outbox
