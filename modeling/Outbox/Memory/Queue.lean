import Outbox.Backend
import Outbox.Registry

/-!
# The queue in memory

Committed tasks in the order in which they were committed, the tasks that open claims hold, and the
dead letters.  Producers stage tasks in a transaction and append them when it commits.  A claim locks
tasks and collects what is to happen to them; only its commit changes the queue, and it unlocks its
own tasks however it ends.
-/

namespace Outbox.Memory

open Outbox.Time

/-- A task that was set aside, and why. -/
structure DeadLetter where
  task : Task
  reason : String
  deriving DecidableEq

/-- The state that producers and consumers share. -/
structure Queue where
  /-- Committed tasks, in the order of their commits. -/
  tasks : List Task
  /-- Tasks that an open claim holds. -/
  locked : List TaskId
  deadLetters : List DeadLetter
  /-- The time that the queue goes by. -/
  now : Timestamp
  deriving DecidableEq

/-- A transaction of a producer: tasks that nobody sees until it commits. -/
structure Transaction where
  staged : List Task
  deriving DecidableEq

/-- An open claim: its tasks, and what will happen when it commits. -/
structure Claim where
  tasks : List Task
  deleted : List TaskId
  quarantined : List DeadLetter
  deriving DecidableEq

/-! ### Producers -/

namespace Transaction

/-- Nothing staged. -/
def empty : Transaction := ⟨[]⟩

/-- Stages a task.  It counts as enqueued now, and is due now unless another time is given. -/
def stageRaw (tx : Transaction) (now : Timestamp) (id : TaskId) (tag : String) (payload : Json)
    (scheduledAt : Option Timestamp) : Transaction :=
  ⟨tx.staged ++ [⟨id, now, scheduledAt.getD now, tag, payload⟩]⟩

/-- Stages a task that asks for one entity. -/
def stage (tx : Transaction) (now : Timestamp) (id : TaskId) (entity : EntityId) (tag : String)
    (scheduledAt : Option Timestamp) : Transaction :=
  tx.stageRaw now id tag (Payload.syncEntity entity).toJson scheduledAt

/-- Stages a task for each entity, with one tag and one schedule. -/
def stageBatch (tx : Transaction) (now : Timestamp) (tag : String)
    (scheduledAt : Option Timestamp) : List (TaskId × EntityId) → Transaction
  | [] => tx
  | (id, entity) :: rest =>
    (tx.stage now id entity tag scheduledAt).stageBatch now tag scheduledAt rest

end Transaction

namespace Queue

/-- An empty queue at a given time. -/
def empty (now : Timestamp) : Queue := ⟨[], [], [], now⟩

/-- Appends the staged tasks of a transaction. -/
def commitProducer (q : Queue) (tx : Transaction) : Queue := { q with tasks := q.tasks ++ tx.staged }

/-- Stages one task and commits it. -/
def enqueue (q : Queue) (id : TaskId) (entity : EntityId) (tag : String)
    (scheduledAt : Option Timestamp) : Queue :=
  q.commitProducer (Transaction.empty.stage q.now id entity tag scheduledAt)

/-- Moves the clock, forward or back. -/
def advance (q : Queue) (nanos : Int) : Queue := { q with now := q.now.addNanos nanos }

/-! ### Consumers -/

/-- Whether a task may be claimed. -/
def isDue (q : Queue) (t : Task) : Bool := t.scheduledAt < q.now && t.id ∉ q.locked

/-- The tasks that may be claimed, by the time they were enqueued, and those of one time in the order
of their commits. -/
def due (q : Queue) : List Task :=
  (q.tasks.filter q.isDue).mergeSort fun a b => a.enqueuedAt ≤ b.enqueuedAt

/-- Locks the first due tasks; a negative limit is none. -/
def claimDue (q : Queue) (limit : Int) : Claim × Queue :=
  let tasks := q.due.take limit.toNat
  (⟨tasks, [], []⟩, { q with locked := q.locked ++ tasks.map Task.id })

/-- Unlocks the tasks of a claim. -/
def release (q : Queue) (c : Claim) : Queue :=
  { q with locked := q.locked.filter fun i => i ∉ c.tasks.map Task.id }

/-- Deletes and sets aside what a claim asks for, and unlocks its tasks. -/
def commitClaim (q : Queue) (c : Claim) : Queue :=
  { q with
    tasks := q.tasks.filter fun t => t.id ∉ c.deleted
    deadLetters := q.deadLetters ++ c.quarantined }.release c

end Queue

namespace Claim

/-- Will delete those of the tasks that the claim holds. -/
def delete (c : Claim) (ids : List TaskId) : Claim :=
  { c with deleted := c.deleted ++ ids.filter fun i => i ∈ c.tasks.map Task.id }

/-- Will move a task to the dead letters. -/
def quarantine (c : Claim) (t : Task) (reason : String) : Claim :=
  { c with deleted := c.deleted ++ [t.id], quarantined := c.quarantined ++ [⟨t, reason⟩] }

end Claim

/-- The queue as the reconciler uses it. -/
def Queue.backend : TaskQueue Queue Claim where
  claimDue limit := Action.change fun q => q.claimDue limit
  tasks c := c.tasks
  delete c ids := pure (c.delete ids)
  quarantine c t reason := pure (c.quarantine t reason)
  commit c := Action.change fun q => ((), q.commitClaim c)
  rollback c := Action.change fun q => ((), q.release c)
  abandon c q := q.release c

end Outbox.Memory
