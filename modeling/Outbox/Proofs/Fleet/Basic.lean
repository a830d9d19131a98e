import Outbox.Proofs.Reconciler.Stage
import Outbox.Proofs.Reconciler.Tick

/-!
# Consumers that share the services

Any number of consumers reconcile with one queue, one store and one index, and producers change
entities meanwhile.  A producer changes an entity and commits a task for it at once; a consumer goes
through its ticks step by step (`Reconciler.next`), so anything may happen between two calls of a
tick.  Services go down and come back, documents are rejected, and consumers crash.

`Fleet.step` carries out one event, and `Fleet.run` any list of them.  Next to what the services
show, the state remembers for each entity the task of its last change, what each consumer knew of
that when it last read entities, and whether the index was last written by a consumer who had read
too early.  Only the identifiers and the versions that were used before matter to what can happen.
-/

namespace Outbox

open Outbox.Memory Outbox.Reconciler Outbox.Simulation Outbox.Time

/-- What a producer does to one entity. -/
inductive Mutation
  | put (e : Entity)
  | markDeleted (id : EntityId)
  | remove (id : EntityId)

namespace Mutation

/-- The entity that is changed. -/
def entity : Mutation → EntityId
  | .put e => e.id
  | .markDeleted id => id
  | .remove id => id

/-- The store after the change. -/
def apply (s : Store) : Mutation → Store
  | .put e => s.put e
  | .markDeleted id => s.markDeleted id
  | .remove id => s.remove id

/-- The versions that come with a change. -/
def versions : Mutation → List (EntityId × Timestamp)
  | .put e => [(e.id, e.updated)]
  | .markDeleted _ => []
  | .remove _ => []

end Mutation

/-- What stays the same: how each consumer enriches and how much it claims, and the tags that all of
them know. -/
structure Settings (κ : Type) where
  enrich : κ → Transform
  registry : Registry
  limit : κ → Int

/-- The reconciler of a consumer. -/
def Settings.reconciler {κ : Type} (c : Settings κ) (k : κ) : Reconciler (World Index) Claim :=
  (Setup.inMemory (c.enrich k) c.registry (c.limit k)).reconciler

/-- The claim under which a consumer works, with what it asked for so far. -/
def Reconciler.Stage.claim? : Stage Claim → Option Claim
  | .resting _ => none
  | .claimed claim => some claim
  | .sawStore _ asked _ => some asked
  | .judged _ asked _ _ => some asked
  | .loaded _ asked _ _ => some asked
  | .upserted _ asked _ _ => some asked
  | .written _ asked _ => some asked
  | .failed claim _ => some claim

/-- Consumers at work on shared services. -/
structure Fleet (κ : Type) where
  world : World Index
  stage : κ → Stage Claim
  /-- The identifiers that were given to tasks. -/
  issued : List TaskId
  /-- The versions that entities had. -/
  versions : List (EntityId × Timestamp)
  /-- The task of the last change of an entity. -/
  latest : EntityId → Option TaskId
  /-- What `latest` was when a consumer last read entities. -/
  loadedAt : κ → EntityId → Option TaskId
  /-- Whether the last write to the index since the last change of an entity was made from what was
  read before that change. -/
  outdated : EntityId → Bool

namespace Fleet

/-- One thing that happens. -/
inductive Event (κ : Type)
  /-- A producer changes an entity and commits a task for it. -/
  | change (m : Mutation) (id : TaskId) (tag : String) (payload : Json)
    (scheduledAt : Option Timestamp)
  /-- A task is committed without a change. -/
  | enqueue (id : TaskId) (tag : String) (payload : Json) (scheduledAt : Option Timestamp)
  /-- A consumer takes a step. -/
  | step (k : κ)
  /-- A consumer drops its claim. -/
  | crash (k : κ)
  | setStoreAvailable (available : Bool)
  | setIndexAvailable (available : Bool)
  /-- From now on these are rejected. -/
  | reject (ids : List EntityId)
  | advance (nanos : Int)

variable {κ : Type}

/-- Consumers at rest on an empty queue, with anything in store and index. -/
def start (now : Timestamp) (store : Store) (index : Index) : Fleet κ where
  world := { World.start now index with store := store }
  stage := fun _ => .resting none
  issued := []
  versions := store.entities.map fun p => (p.1, p.2.updated)
  latest := fun _ => none
  loadedAt := fun _ _ => none
  outdated := fun _ => false

/-- Commits a task of a producer. -/
def commit (w : World Index) (id : TaskId) (tag : String) (payload : Json)
    (scheduledAt : Option Timestamp) : World Index :=
  { w with
    queue := w.queue.commitProducer
      (Transaction.empty.stageRaw w.queue.now id tag payload scheduledAt) }

/-- The task that is committed. -/
def newTask (w : World Index) (id : TaskId) (tag : String) (payload : Json)
    (scheduledAt : Option Timestamp) : Task :=
  ⟨id, w.queue.now, scheduledAt.getD w.queue.now, tag, payload⟩

theorem tasks_commit (w : World Index) (id : TaskId) (tag : String) (payload : Json)
    (scheduledAt : Option Timestamp) :
    (commit w id tag payload scheduledAt).queue.tasks
      = w.queue.tasks ++ [newTask w id tag payload scheduledAt] := rfl

variable [DecidableEq κ]

/-- Changes an entity under a version that is new to it, with a new task that names it. -/
def change (c : Settings κ) (s : Fleet κ) (m : Mutation) (id : TaskId) (tag : String)
    (payload : Json) (scheduledAt : Option Timestamp) : Fleet κ :=
  if id ∉ s.issued ∧ (∀ v ∈ m.versions, v ∉ s.versions) ∧
      Names c.registry (newTask s.world id tag payload scheduledAt) m.entity then
    { s with
      world := { commit s.world id tag payload scheduledAt with store := m.apply s.world.store }
      issued := id :: s.issued
      versions := m.versions ++ s.versions
      latest := Function.update s.latest m.entity (some id)
      outdated := Function.update s.outdated m.entity false }
  else s

/-- Commits a new task. -/
def enqueue (s : Fleet κ) (id : TaskId) (tag : String) (payload : Json)
    (scheduledAt : Option Timestamp) : Fleet κ :=
  if id ∉ s.issued then
    { s with world := commit s.world id tag payload scheduledAt, issued := id :: s.issued }
  else s

/-- Which entities are outdated after a consumer wrote the index for some of them. -/
def outdatedAfter (s : Fleet κ) (k : κ) (ids : List EntityId) : EntityId → Bool := fun e =>
  if e ∈ ids ∧ s.world.index.available = true ∧ e ∉ s.world.index.rejected then
    decide (s.loadedAt k e ≠ s.latest e)
  else s.outdated e

/-- What is remembered of the step that a consumer takes from a stage. -/
def remember (s : Fleet κ) (k : κ) : Stage Claim → Fleet κ
  | .judged _ _ _ _ => { s with loadedAt := Function.update s.loadedAt k s.latest }
  | .loaded _ _ _ p => { s with outdated := s.outdatedAfter k (p.documents.map Document.id) }
  | .upserted _ _ _ p => { s with outdated := s.outdatedAfter k p.tombstoned }
  | _ => s

/-- Takes a step of a consumer. -/
def consume (c : Settings κ) (s : Fleet κ) (k : κ) : Fleet κ :=
  match (next (c.reconciler k) (s.stage k)).exec s.world with
  | (.ok stage, world) =>
    { s.remember k (s.stage k) with world := world, stage := Function.update s.stage k stage }
  | (.error _, _) => s

/-- Drops the claim of a consumer, which begins anew. -/
def crash (c : Settings κ) (s : Fleet κ) (k : κ) : Fleet κ :=
  match (s.stage k).claim? with
  | some claim =>
    { s with
      world := (c.reconciler k).queue.abandon claim s.world
      stage := Function.update s.stage k (.resting none) }
  | none => s

/-- Carries out one event; one that is impossible changes nothing. -/
def step (c : Settings κ) (s : Fleet κ) : Event κ → Fleet κ
  | .change m id tag payload scheduledAt => s.change c m id tag payload scheduledAt
  | .enqueue id tag payload scheduledAt => s.enqueue id tag payload scheduledAt
  | .step k => s.consume c k
  | .crash k => s.crash c k
  | .setStoreAvailable available =>
    { s with world := { s.world with store := s.world.store.setAvailable available } }
  | .setIndexAvailable available =>
    { s with world := { s.world with index := s.world.index.setAvailable available } }
  | .reject ids =>
    { s with world := { s.world with index := { s.world.index with rejected := ids } } }
  | .advance nanos => { s with world := { s.world with queue := s.world.queue.advance nanos } }

/-- Carries out events in turn. -/
def run (c : Settings κ) (s : Fleet κ) (es : List (Event κ)) : Fleet κ := es.foldl (step c) s

end Fleet

end Outbox
