import Outbox.Disposition
import Outbox.Proofs.Indexer

/-!
# What comparing comes to in memory

With store and index in memory a verdict says whether the store holds a live entity, and whether the
index holds its version.
-/

namespace Outbox

open Outbox.Memory

/-- What is compared is what store and index hold, for an identifier that was asked for. -/
theorem classify_statuses {s : Store} {x : Index} {ids : List EntityId} {i : EntityId}
    (h : i ∈ ids) :
    classify (s.statuses ids) (x.statuses ids) i
      = compareStatus ((s.entity? i).map Entity.status) ((x.stored? i).map Stored.status) := by
  rw [classify, Store.find?_statuses, Index.find?_statuses, if_pos h, if_pos h]

theorem compareStatus_eq_obsolete {s : Store} {i : EntityId} {index : Option IndexStatus} :
    compareStatus ((s.entity? i).map Entity.status) index = .obsolete ↔ s.live? i = none := by
  rw [Store.live?]
  cases s.entity? i with
  | none => simp [compareStatus]
  | some e =>
      cases hdel : e.deleted with
      | true => simp [compareStatus, Entity.status, hdel]
      | false =>
          simp only [Option.map_some, Entity.status, compareStatus, hdel]
          cases index with
          | none => simp [Option.filter, hdel]
          | some st =>
              by_cases hst : st.updated = some e.updated
              · simp [hst, Option.filter, hdel]
              · simp [hst, Option.filter, hdel]

/-- **Needs indexing.**  The entity is live, and the index does not hold its version. -/
theorem compareStatus_eq_needsIndex {s : Store} {x : Index} {i : EntityId} :
    compareStatus ((s.entity? i).map Entity.status) ((x.stored? i).map Stored.status)
        = .needsIndex ↔
      ∃ e, s.live? i = some e ∧ ¬x.HasVersion i e.updated := by
  simp only [Store.live?_eq_some, Index.hasVersion_iff_status]
  cases s.entity? i with
  | none => simp [compareStatus]
  | some e =>
      cases hdel : e.deleted with
      | true => simp [compareStatus, Entity.status, hdel]
      | false =>
          simp only [Option.map_some, Entity.status, compareStatus, hdel]
          cases (x.stored? i).map Stored.status with
          | none => simp [hdel]
          | some st =>
              by_cases hst : st.updated = some e.updated
              · simp [hst, hdel]
              · simp [hst, hdel]

end Outbox
