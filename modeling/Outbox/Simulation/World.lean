import Outbox.Simulation.Command

/-!
# The world of a simulation

Queue and primary store in memory, an index of any kind, and the transactions and claims that are
open.  `step` carries out one command, and `run` a list of them; between two commands a moment
passes, so that a task is due in the next command after it was enqueued.
-/

namespace Outbox.Simulation

open Outbox.Memory Outbox.Time

/-- Everything that commands act on. -/
structure World (ι : Type) where
  queue : Queue
  store : Store
  index : ι
  transactions : Table String Transaction
  claims : Table String Claim
  /-- The number of tasks made so far. -/
  created : Nat

/-- What stays the same during a simulation. -/
structure Setup (ι : Type) where
  index : SearchIndex ι
  /-- Carries out what only some indices offer. -/
  inspect : IndexCommand → ι → Answer × ι
  enrich : Transform
  registry : Registry
  limit : Int

/-- The identifier of the task made after `n` others. -/
def taskNumber (n : Nat) : TaskId := ⟨.ofNat (0xffffffffffff4fffbfff000000000000 + n + 1)⟩

/-- The number of a task among those made so far, counted from one. -/
def numberOf? (created : Nat) (t : TaskId) : Option Nat :=
  let base := 0xffffffffffff4fffbfff000000000000
  if base < t.uuid.value ∧ t.uuid.value ≤ base + created then some (t.uuid.value - base) else none

namespace World

variable {ι : Type}

/-- Nothing happened yet. -/
def start (now : Timestamp) (index : ι) : World ι := ⟨.empty now, .empty, index, [], [], 0⟩

/-- The queue as a part of the world. -/
def queuePart : Part (World ι) Queue := ⟨World.queue, fun w q => { w with queue := q }⟩

/-- The store as a part of the world. -/
def storePart : Part (World ι) Store := ⟨World.store, fun w s => { w with store := s }⟩

/-- The index as a part of the world. -/
def indexPart : Part (World ι) ι := ⟨World.index, fun w x => { w with index := x }⟩

/-- Changes an open transaction, if there is one of that name. -/
def onTransaction (w : World ι) (tx : String) (f : Transaction → Transaction) : World ι :=
  match Table.find? w.transactions tx with
  | some t => { w with transactions := Table.insert w.transactions tx (f t) }
  | none => w

/-- Changes an open claim, if there is one of that name. -/
def onClaim (w : World ι) (name : String) (f : Claim → Claim) : World ι :=
  match Table.find? w.claims name with
  | some c => { w with claims := Table.insert w.claims name (f c) }
  | none => w

/-- Ends an open claim in a given way, if there is one of that name. -/
def endClaim (w : World ι) (name : String) (f : Queue → Claim → Queue) : World ι :=
  match Table.find? w.claims name with
  | some c => { w with queue := f w.queue c, claims := Table.erase w.claims name }
  | none => w

/-- Counts new tasks. -/
def count (w : World ι) (n : Nat) : World ι := { w with created := w.created + n }

end World

variable {ι : Type}

/-- The reconciler of a simulation. -/
def Setup.reconciler (s : Setup ι) : Reconciler (World ι) Claim where
  queue := Queue.backend.within World.queuePart
  store := Store.backend.within World.storePart
  index := s.index.within World.indexPart
  enrich := s.enrich
  registry := s.registry
  limit := s.limit

/-- An action whose value is shown. -/
def shown {α : Type} (show_ : α → Answer) (a : Action (World ι) α) (w : World ι) :
    Except Error Answer × World ι :=
  ((a.exec w).1.map show_, (a.exec w).2)

/-- A command that cannot fail and shows nothing. -/
def silent (w : World ι) : Except Error Answer × World ι := (.ok .done, w)

/-- Carries out one command. -/
def step (s : Setup ι) (c : Command) (w : World ι) : Except Error Answer × World ι :=
  let r := s.reconciler
  let now := w.queue.now
  let fresh := taskNumber w.created
  match c with
  | .put e => silent { w with store := w.store.put e }
  | .putLive id updated body => silent { w with store := w.store.putLive id updated body }
  | .markDeleted id => silent { w with store := w.store.markDeleted id }
  | .remove id => silent { w with store := w.store.remove id }
  | .setStoreAvailable on => silent { w with store := w.store.setAvailable on }
  | .primaryStatuses ids => shown .primaryStatuses (r.store.statuses ids) w
  | .entities ids => shown .entities (r.store.entities ids) w
  | .updatedBetween start stop => shown .ids (r.store.updatedBetween start stop) w
  | .onIndex c =>
    let (answer, index) := s.inspect c w.index
    (.ok answer, { w with index := index })
  | .indexStatuses ids => shown .indexStatuses (r.index.statuses ids) w
  | .upsert docs => shown (fun _ => .done) (r.index.upsert docs) w
  | .tombstone ids => shown (fun _ => .done) (r.index.tombstone ids) w
  | .enqueue entity tag schedule =>
    let queue := w.queue.enqueue fresh entity tag (schedule.time? now)
    (.ok (.task fresh), World.count { w with queue := queue } 1)
  | .begin tx => silent { w with transactions := Table.insert w.transactions tx .empty }
  | .stage tx entity tag schedule =>
    (.ok (.task fresh),
      (w.onTransaction tx fun t => t.stage now fresh entity tag (schedule.time? now)).count 1)
  | .stageRaw tx tag payload schedule =>
    (.ok (.task fresh),
      (w.onTransaction tx fun t => t.stageRaw now fresh tag payload (schedule.time? now)).count 1)
  | .stageBatch tx entities tag schedule =>
    let ids := (List.range entities.length).map fun i => taskNumber (w.created + i)
    (.ok (.taskIds ids),
      (w.onTransaction tx fun t =>
        t.stageBatch now tag (schedule.time? now) (ids.zip entities)).count entities.length)
  | .commitTransaction tx =>
    let staged := (Table.find? w.transactions tx).getD .empty
    silent { w with
      queue := w.queue.commitProducer staged
      transactions := Table.erase w.transactions tx }
  | .dropTransaction tx => silent { w with transactions := Table.erase w.transactions tx }
  | .advance millis => silent { w with queue := w.queue.advance (millis * 1000000) }
  | .claim name limit =>
    let w := w.endClaim name Queue.release
    let (c, queue) := w.queue.claimDue limit
    (.ok (.taskIds (c.tasks.map Task.id)),
      { w with queue := queue, claims := Table.insert w.claims name c })
  | .delete name ids => silent (w.onClaim name fun c => c.delete ids)
  | .quarantine name id reason =>
    match w.queue.tasks.find? fun t => t.id = id with
    | some t => silent (w.onClaim name fun c => c.quarantine t reason)
    | none => silent w
  | .commitClaim name => silent (w.endClaim name Queue.commitClaim)
  | .rollback name => silent (w.endClaim name Queue.release)
  | .dropClaim name => silent (w.endClaim name Queue.release)
  | .tasks => (.ok (.tasks w.queue.tasks), w)
  | .deadLetters => (.ok (.deadLetters w.queue.deadLetters), w)
  | .limit => (.ok (.limit s.limit), w)
  | .reconcile => shown .report r.tick w
  | .index ids => shown .outcome (Indexer.run r.store r.index r.enrich ids) w
  | .indexPlain ids => shown .outcome (Indexer.run r.store r.index .unchanged ids) w

/-- The time that passes between two commands, in nanoseconds. -/
def moment : Int := 1000

/-- Lets a moment pass. -/
def pass (w : World ι) : World ι := { w with queue := w.queue.advance moment }

/-- Carries out commands in turn, and gives each answer with the world at that time. -/
def run (s : Setup ι) : List Command → World ι → List (Except Error Answer × World ι)
  | [], _ => []
  | c :: cs, w =>
    let shown := step s c w
    shown :: run s cs (pass shown.2)

/-! ### The index in memory -/

/-- What an index in memory offers besides being used. -/
def inspectMemory (c : IndexCommand) (x : Index) : Answer × Index :=
  match c with
  | .seed d => (.done, x.seed d)
  | .setAvailable on => (.done, x.setAvailable on)
  | .reject id => (.done, x.reject id)
  | .document id => (.document (x.stored? id), x)
  | .calls => (.calls x.upserts x.tombstones, x)

/-- A simulation on an index in memory. -/
def Setup.inMemory (enrich : Transform) (registry : Registry) (limit : Int) : Setup Index :=
  ⟨Index.backend, inspectMemory, enrich, registry, limit⟩

end Outbox.Simulation
