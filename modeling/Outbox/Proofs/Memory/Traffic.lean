import Outbox.Proofs.Memory.Queue

/-!
# Traffic on a queue

Producers and consumers work on one queue at the same time.  A producer stages tasks in a
transaction and commits or drops it; a consumer claims tasks, asks for deletions and quarantines,
and commits the claim, rolls it back or drops it; the clock moves either way.  `Traffic.step`
carries out one such event with the operations of the queue itself, and `Traffic.run` any list of
them, so a list of events is one interleaving of everything that happens.

Next to what the queue shows, the state remembers what happened: the identifiers that were given,
the tasks as they were enqueued, those that were committed or dropped, and the claims that were
committed.  It is kept by the events alone and not by what the queue makes of them, and no operation
reads it, except that an identifier is given only once.
-/

namespace Outbox.Memory

open Outbox.Time

/-- One thing that happens on a queue.  Transactions and claims go by names. -/
inductive Event (ι κ : Type)
  | begin (tx : ι)
  | enqueue (tx : ι) (id : TaskId) (entity : EntityId) (tag : String)
    (scheduledAt : Option Timestamp)
  | enqueueRaw (tx : ι) (id : TaskId) (tag : String) (payload : Json)
    (scheduledAt : Option Timestamp)
  | enqueueBatch (tx : ι) (items : List (TaskId × EntityId)) (tag : String)
    (scheduledAt : Option Timestamp)
  | commitTransaction (tx : ι)
  | dropTransaction (tx : ι)
  | claimDue (claim : κ) (limit : Int)
  | delete (claim : κ) (ids : List TaskId)
  | quarantine (claim : κ) (task : Task) (reason : String)
  | commitClaim (claim : κ)
  | rollback (claim : κ)
  | dropClaim (claim : κ)
  | advance (nanos : Int)

/-- The tasks that an event enqueues at a time.  A task counts as enqueued then, and is due then unless
another time is given. -/
def Event.tasks {ι κ : Type} (now : Timestamp) : Event ι κ → List Task
  | .enqueue _ id entity tag scheduledAt =>
    [⟨id, now, scheduledAt.getD now, tag, .object [("entity_id", .string entity.text)]⟩]
  | .enqueueRaw _ id tag payload scheduledAt => [⟨id, now, scheduledAt.getD now, tag, payload⟩]
  | .enqueueBatch _ items tag scheduledAt =>
    items.map fun item =>
      ⟨item.1, now, scheduledAt.getD now, tag, .object [("entity_id", .string item.2.text)]⟩
  | _ => []

/-- A queue in use, with what happened on it. -/
structure Traffic (ι κ : Type) where
  queue : Queue
  /-- The transactions that are open. -/
  transactions : ι → Option Transaction
  /-- The claims that are open. -/
  claims : κ → Option Claim
  /-- The identifiers that were given to tasks. -/
  issued : List TaskId
  /-- The tasks of each open transaction, as they were enqueued. -/
  enqueued : ι → List Task
  /-- The tasks of committed transactions, in the order of the commits. -/
  committed : List Task
  /-- The tasks of dropped transactions. -/
  dropped : List Task
  /-- The claims that were committed, as they stood then. -/
  settled : List Claim

namespace Traffic

variable {ι κ : Type}

/-- A new queue. -/
def start (now : Timestamp) : Traffic ι κ :=
  ⟨.empty now, fun _ => none, fun _ => none, [], fun _ => [], [], [], []⟩

variable [DecidableEq ι] [DecidableEq κ]

/-! ### Events -/

/-- Opens a transaction, if none of that name is open. -/
def begin (s : Traffic ι κ) (tx : ι) : Traffic ι κ :=
  match s.transactions tx with
  | none =>
    { s with
      transactions := Function.update s.transactions tx (some .empty)
      enqueued := Function.update s.enqueued tx [] }
  | some _ => s

/-- Stages tasks with identifiers that were never given before. -/
def stage (s : Traffic ι κ) (tx : ι) (new : List Task) (f : Transaction → Transaction) :
    Traffic ι κ :=
  match s.transactions tx with
  | some t =>
    if (new.map Task.id).Nodup ∧ ∀ i ∈ new.map Task.id, i ∉ s.issued then
      { s with
        transactions := Function.update s.transactions tx (some (f t))
        issued := s.issued ++ new.map Task.id
        enqueued := Function.update s.enqueued tx (s.enqueued tx ++ new) }
    else s
  | none => s

def commitTransaction (s : Traffic ι κ) (tx : ι) : Traffic ι κ :=
  match s.transactions tx with
  | some t =>
    { s with
      queue := s.queue.commitProducer t
      transactions := Function.update s.transactions tx none
      committed := s.committed ++ s.enqueued tx }
  | none => s

def dropTransaction (s : Traffic ι κ) (tx : ι) : Traffic ι κ :=
  match s.transactions tx with
  | some _ =>
    { s with
      transactions := Function.update s.transactions tx none
      dropped := s.dropped ++ s.enqueued tx }
  | none => s

/-- Opens a claim, if none of that name is open. -/
def claimDue (s : Traffic ι κ) (k : κ) (limit : Int) : Traffic ι κ :=
  match s.claims k with
  | none =>
    { s with
      queue := (s.queue.claimDue limit).2
      claims := Function.update s.claims k (some (s.queue.claimDue limit).1) }
  | some _ => s

def delete (s : Traffic ι κ) (k : κ) (ids : List TaskId) : Traffic ι κ :=
  match s.claims k with
  | some c => { s with claims := Function.update s.claims k (some (c.delete ids)) }
  | none => s

/-- A consumer quarantines tasks of its own claim, and each of them once. -/
def quarantine (s : Traffic ι κ) (k : κ) (t : Task) (reason : String) : Traffic ι κ :=
  match s.claims k with
  | some c =>
    if t ∈ c.tasks ∧ t ∉ c.quarantined.map DeadLetter.task then
      { s with claims := Function.update s.claims k (some (c.quarantine t reason)) }
    else s
  | none => s

def commitClaim (s : Traffic ι κ) (k : κ) : Traffic ι κ :=
  match s.claims k with
  | some c =>
    { s with
      queue := s.queue.commitClaim c
      claims := Function.update s.claims k none
      settled := s.settled ++ [c] }
  | none => s

/-- Ends a claim in another way than by a commit. -/
def release (s : Traffic ι κ) (k : κ) : Traffic ι κ :=
  match s.claims k with
  | some c =>
    { s with
      queue := s.queue.release c
      claims := Function.update s.claims k none }
  | none => s

/-- Carries out one event; one that is impossible changes nothing. -/
def step (s : Traffic ι κ) : Event ι κ → Traffic ι κ
  | .begin tx => s.begin tx
  | e@(.enqueue tx id entity tag scheduledAt) =>
    s.stage tx (e.tasks s.queue.now) fun t => t.stage s.queue.now id entity tag scheduledAt
  | e@(.enqueueRaw tx id tag payload scheduledAt) =>
    s.stage tx (e.tasks s.queue.now) fun t => t.stageRaw s.queue.now id tag payload scheduledAt
  | e@(.enqueueBatch tx items tag scheduledAt) =>
    s.stage tx (e.tasks s.queue.now) fun t => t.stageBatch s.queue.now tag scheduledAt items
  | .commitTransaction tx => s.commitTransaction tx
  | .dropTransaction tx => s.dropTransaction tx
  | .claimDue k limit => s.claimDue k limit
  | .delete k ids => s.delete k ids
  | .quarantine k t reason => s.quarantine k t reason
  | .commitClaim k => s.commitClaim k
  | .rollback k => s.release k
  | .dropClaim k => s.release k
  | .advance nanos => { s with queue := s.queue.advance nanos }

/-- Carries out events in turn. -/
def run (s : Traffic ι κ) (es : List (Event ι κ)) : Traffic ι κ := es.foldl step s

end Traffic

end Outbox.Memory
