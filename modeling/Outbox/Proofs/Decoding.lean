import Outbox.Proofs.Database.Reindex
import Outbox.Proofs.Memory.Sound

/-!
# Payloads are read by their schema

A consumer that knows a tag reads what producers write under it as the entities that they named; of
everything else it reads what asks for an entity in one of the two accepted forms, and refuses the rest
by naming the task.

* `ReadBack` — what producers write under a tag, and what a registry reads from it;
* `decode_follows_schema` — which tasks are read, and that all tasks of producers are.
-/

namespace Outbox

open Database

/-- What producers write under a tag is read as the entities that they named. -/
structure ReadBack (r : Registry) (tag : String) : Prop where
  enqueue : ∀ i e scheduledAt s,
    Says id (fun _ xs => Orders r (written xs) [e]) (Database.Queue.enqueue i e tag scheduledAt) s
  enqueueBatch : ∀ fresh entities scheduledAt s,
    Says id (fun _ xs => Orders r (written xs) entities)
      (Database.Queue.enqueueBatch fresh entities tag scheduledAt) s
  reindexDate : tag = reindexDateTag → ∀ table fresh start stop c,
    Says Connection.script (fun result xs => ∃ entities, Orders r (written xs) entities ∧
        (Found table start stop xs entities ∨ entities = [] ∧ ∃ e, result = .error e))
      (Database.reindexDate table fresh start stop) c
  /-- In memory; a single task is staged as a batch of one. -/
  stageBatch : ∀ (tx : Memory.Transaction) now scheduledAt (items : List (TaskId × EntityId)),
    ∃ tasks, (tx.stageBatch now tag scheduledAt items).staged = tx.staged ++ tasks ∧
      List.Forall₂ (fun t item => r.decode t = .ok (.syncEntity item.2)) tasks items

/-- Under every tag that a registry knows, it reads back what producers write. -/
theorem readBack_of_kindOf {r : Registry} {tag : String} (h : r.kindOf tag = some .syncEntity) :
    ReadBack r tag where
  enqueue i e scheduledAt s := Database.Queue.orders_enqueue h i e scheduledAt s
  enqueueBatch fresh entities scheduledAt s :=
    Database.Queue.orders_enqueueBatch h fresh entities scheduledAt s
  reindexDate htag table fresh start stop c :=
    (says_reindexDate table fresh start stop c).mono fun _ _ hreindexed =>
      hreindexed.orders (htag ▸ h)
  stageBatch tx now scheduledAt items := by
    refine ⟨_, tx.stageBatch_eq now tag scheduledAt items, ?_⟩
    rw [List.forall₂_map_left_iff, List.forall₂_same]
    intro item _
    exact Database.Queue.decode_toJson h item.1 now (scheduledAt.getD now) item.2

/-- **Payloads are read by their schema and no more.**  Whatever was registered, a task is read as an
entity if and only if its tag is known and its payload asks for this entity, by an identifier in one of
the accepted spellings; every other task is refused as malformed by its own identifier.  What producers
write under a known tag is read as the entities that they named. -/
theorem decode_follows_schema (origin : Registry.Origin)
    (registrations : List (String × TaskKind)) :
    let r := Registry.built origin registrations
    let known := Registry.known origin registrations
    (∀ t e, r.decode t = .ok (.syncEntity e) ↔ t.tag ∈ known ∧ AsksFor t.payload e) ∧
      (∀ t, (¬∃ e, t.tag ∈ known ∧ AsksFor t.payload e) ↔
        ∃ reason, r.decode t = .error (.malformedPayload t.id reason)) ∧
      (∀ t failure, r.decode t = .error failure → ∃ reason, failure = .malformedPayload t.id reason) ∧
      (∀ s e, EntityId.ofText? s = some e ↔ s.toList.map Char.toLower ∈ e.uuid.spellings) ∧
      ∀ tag ∈ known, ReadBack r tag := by
  intro r known
  have hread : ∀ t e, r.decode t = .ok (.syncEntity e) ↔ t.tag ∈ known ∧ AsksFor t.payload e :=
    fun t e => by rw [Registry.decode_eq_ok_iff, Registry.kindOf_built]
  refine ⟨hread, fun t => ?_, fun t failure hfailure => ?_, fun s e => EntityId.ofText?_eq_some_iff,
    fun tag htag => readBack_of_kindOf (Registry.kindOf_built.mpr htag)⟩
  · simp only [← hread]
    rcases r.exists_decode t with ⟨e, he⟩ | ⟨reason, hreason⟩
    · simp [he]
    · simp [hreason]
  · rcases r.exists_decode t with ⟨e, he⟩ | ⟨reason, hreason⟩
    · exact absurd (he.symm.trans hfailure) nofun
    · exact ⟨reason, Except.error.inj (hfailure.symm.trans hreason)⟩

end Outbox
