import Mathlib.Data.List.Forall2
import Outbox.Proofs.Database.Exchange
import Outbox.Proofs.Registry

/-!
# What producers insert

A producer names the entities whose tasks it inserts, and the payloads that it sends are read as these
entities again, under every registry that knows the tag.

* `Statement.stored` — the tasks that a statement inserts;
* `orders_insertion` — the tasks of a batch ask for its entities, in order;
* `says_enqueueBatch` — what is said to insert a batch;
* `orders_enqueue`, `orders_enqueueBatch` — what producers send asks for the entities that they name.
-/

namespace Outbox.Database

open Outbox.Time

/-- A task as it is inserted. -/
structure StoredTask where
  id : TaskId
  scheduledAt : Option Timestamp
  tag : String
  payload : Json

/-- The tasks that a statement inserts; in a batch each identifier goes with the payload at its place. -/
def Statement.stored : Statement → List StoredTask
  | .insertTask id scheduledAt tag payload => [⟨id, scheduledAt, tag, payload⟩]
  | .insertTasks ids scheduledAt tag payloads =>
    List.zipWith (fun id payload => ⟨id, scheduledAt, tag, payload⟩) ids payloads
  | _ => []

/-- The tasks of statements that were sent, whatever came back. -/
def written (xs : List Exchange) : List StoredTask := xs.flatMap fun x => x.statement.stored

theorem stored_of_isWork {statement : Statement} (h : statement.isWork = true) :
    statement.stored = [] := by
  cases statement with
  | insertTask | insertTasks => cases h
  | _ => rfl

theorem written_of_isWork {xs : List Exchange} (h : ∀ x ∈ xs, x.statement.isWork = true) :
    written xs = [] :=
  List.flatMap_eq_nil_iff.mpr fun x hx => stored_of_isWork (h x hx)

/-- Tasks ask for these entities, in order, whenever they are claimed. -/
def Orders (r : Registry) (tasks : List StoredTask) (entities : List EntityId) : Prop :=
  List.Forall₂ (fun t e => ∀ enqueuedAt dueAt,
    r.decode ⟨t.id, enqueuedAt, dueAt, t.tag, t.payload⟩ = .ok (.syncEntity e)) tasks entities

namespace Queue

/-- The statement that inserts a task for each entity. -/
def insertion (fresh : Nat → TaskId) (entities : List EntityId) (tag : String)
    (scheduledAt : Option Timestamp) : Statement :=
  .insertTasks ((List.range entities.length).map fresh) scheduledAt tag
    (entities.map fun e => (Payload.syncEntity e).toJson)

/-- Tasks are inserted by one statement, which is not sent for no entities. -/
theorem says_enqueueBatch (fresh : Nat → TaskId) (entities : List EntityId) (tag : String)
    (scheduledAt : Option Timestamp) (s : Script) :
    Says id (fun x xs =>
        if entities = [] then x = .ok [] ∧ xs = []
        else ∃ answer, xs = [⟨insertion fresh entities tag scheduledAt, answer⟩] ∧
          x = answer.map fun _ => (List.range entities.length).map fresh)
      (enqueueBatch fresh entities tag scheduledAt) s := by
  cases entities with
  | nil => exact .value ⟨rfl, rfl⟩ s
  | cons e es =>
      exact (says_execute (insertion fresh (e :: es) tag scheduledAt) rfl s).map
        fun x xs ⟨answer, hxs, hx⟩ => ⟨answer, hxs, by rw [hx]; cases answer <;> rfl⟩

variable {r : Registry} {tag : String}

theorem decode_toJson (h : r.kindOf tag = some .syncEntity) (id : TaskId) (enqueuedAt dueAt : Timestamp)
    (e : EntityId) :
    r.decode ⟨id, enqueuedAt, dueAt, tag, (Payload.syncEntity e).toJson⟩ = .ok (.syncEntity e) :=
  Registry.decode_eq_ok_iff.mpr ⟨h, e.text, EntityId.ofText?_text e, .inl rfl⟩

/-- The tasks of a batch, taken apart: their identifiers are those that were drawn, and each is for the
entity at its place. -/
theorem orders_batch (h : r.kindOf tag = some .syncEntity) (scheduledAt : Option Timestamp)
    {ids : List TaskId} {entities : List EntityId} (hlength : ids.length = entities.length) :
    let tasks := Statement.stored
      (.insertTasks ids scheduledAt tag (entities.map fun e => (Payload.syncEntity e).toJson))
    tasks.map StoredTask.id = ids ∧ (∀ t ∈ tasks, t.scheduledAt = scheduledAt ∧ t.tag = tag) ∧
      Orders r tasks entities := by
  induction entities generalizing ids with
  | nil =>
      obtain rfl := List.length_eq_zero_iff.mp hlength
      exact ⟨rfl, nofun, .nil⟩
  | cons e es ih =>
      cases ids with
      | nil => cases hlength
      | cons i is =>
          obtain ⟨hids, hkept, horders⟩ := ih (Nat.succ.inj hlength)
          refine ⟨congrArg (i :: ·) hids, List.forall_mem_cons.mpr ⟨⟨rfl, rfl⟩, hkept⟩, ?_⟩
          exact .cons (fun enqueuedAt dueAt => decode_toJson h i enqueuedAt dueAt e) horders

/-- The tasks that a batch inserts. -/
theorem orders_insertion (h : r.kindOf tag = some .syncEntity) (fresh : Nat → TaskId)
    (entities : List EntityId) (scheduledAt : Option Timestamp) :
    let tasks := (insertion fresh entities tag scheduledAt).stored
    tasks.map StoredTask.id = (List.range entities.length).map fresh ∧
      (∀ t ∈ tasks, t.scheduledAt = scheduledAt ∧ t.tag = tag) ∧ Orders r tasks entities :=
  orders_batch h scheduledAt (by rw [List.length_map, List.length_range])

/-- What is sent to insert a task asks for its entity. -/
theorem orders_enqueue (h : r.kindOf tag = some .syncEntity) (i : TaskId) (e : EntityId)
    (scheduledAt : Option Timestamp) (s : Script) :
    Says id (fun _ xs => Orders r (written xs) [e]) (enqueue i e tag scheduledAt) s := by
  refine (says_execute (.insertTask i scheduledAt tag (Payload.syncEntity e).toJson) rfl s).mono ?_
  rintro _ _ ⟨answer, rfl, -⟩
  exact .cons (fun enqueuedAt dueAt => decode_toJson h i enqueuedAt dueAt e) .nil

/-- What is sent to insert a batch asks for its entities. -/
theorem orders_enqueueBatch (h : r.kindOf tag = some .syncEntity) (fresh : Nat → TaskId)
    (entities : List EntityId) (scheduledAt : Option Timestamp) (s : Script) :
    Says id (fun _ xs => Orders r (written xs) entities)
      (enqueueBatch fresh entities tag scheduledAt) s := by
  refine (says_enqueueBatch fresh entities tag scheduledAt s).mono ?_
  intro x xs hsaid
  split at hsaid
  · rename_i hnone
    rw [hsaid.2, hnone]
    exact .nil
  · obtain ⟨answer, rfl, -⟩ := hsaid
    rw [written, List.flatMap_singleton]
    exact (orders_insertion h fresh entities scheduledAt).2.2

end Queue

end Outbox.Database
