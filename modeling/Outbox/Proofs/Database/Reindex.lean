import Mathlib.Data.List.Nodup
import Outbox.Database.Admin
import Outbox.Proofs.Database.Column
import Outbox.Proofs.Database.Insertion

/-!
# A range of dates is queued whole or not at all

To queue a range of dates, the store is read first, and then one transaction inserts a task for every
entity that was found.  Whichever statement the database refuses, either all of these tasks last or none.

* `Queued` — how the transaction goes;
* `Reindexed` — how all of it goes, from the range to its outcome;
* `Ledger` — what lasts of the exchanges with a database;
* `reindexDate_all_or_nothing` — the tasks that last are those of the range, or there are none.
-/

namespace Outbox.Database

open Outbox.Time

/-! ### How it goes -/

variable {fresh : Nat → TaskId} {entities : List EntityId}

/-- The tasks of entities were inserted; for no entities nothing was sent. -/
inductive Inserted (fresh : Nat → TaskId) (entities : List EntityId) : List Exchange → Prop
  | nothing (h : entities = []) : Inserted fresh entities []
  | batch (h : entities ≠ []) (rows : List Row) :
      Inserted fresh entities [⟨Queue.insertion fresh entities reindexDateTag none, .ok rows⟩]

/-- How the transaction goes that queues entities: it ends with the first statement that is refused,
and it is rolled back if it was open. -/
inductive Queued (fresh : Nat → TaskId) (entities : List EntityId) :
    Except Error Nat → List Exchange → Prop
  | unopened (e : Error) : Queued fresh entities (.error e) [⟨.begin, .error e⟩]
  | refused (h : entities ≠ []) (e : Error) (back : Except Error (List Row)) :
      Queued fresh entities (.error e) [⟨.begin, .ok []⟩,
        ⟨Queue.insertion fresh entities reindexDateTag none, .error e⟩, ⟨.rollback, back⟩]
  | uncommitted {inserted : List Exchange} (h : Inserted fresh entities inserted) (e : Error)
      (back : Except Error (List Row)) :
      Queued fresh entities (.error e)
        (⟨.begin, .ok []⟩ :: (inserted ++ [⟨.commit, .error e⟩, ⟨.rollback, back⟩]))
  | committed {inserted : List Exchange} (h : Inserted fresh entities inserted) :
      Queued fresh entities (.ok entities.length)
        (⟨.begin, .ok []⟩ :: (inserted ++ [⟨.commit, .ok []⟩]))

/-- How the entities of a range of dates are read. -/
abbrev RangeRead (table : TableName) (start stop : Timestamp) (known : Option UpdatedColumn) :
    Except Error (List EntityId) → List Exchange → Prop :=
  Asked table (fun column => .updatedBetween table column start stop) (·.mapM Store.idOfRow) known

/-- How a range of dates is queued: a range that ends before it starts is refused at once, and no
transaction is opened before the entities of the range are known. -/
inductive Reindexed (table : TableName) (fresh : Nat → TaskId) (start stop : Timestamp)
    (known : Option UpdatedColumn) : Except Error Nat → List Exchange → Prop
  | inverted (h : stop < start) (e : Error) : Reindexed table fresh start stop known (.error e) []
  | unread {e : Error} {xs : List Exchange} (h : ¬stop < start)
      (read : RangeRead table start stop known (.error e) xs) :
      Reindexed table fresh start stop known (.error e) xs
  | read {entities : List EntityId} {result : Except Error Nat} {xs ys : List Exchange}
      (h : ¬stop < start)
      (read : RangeRead table start stop known (.ok entities) xs)
      (queued : Queued fresh entities result ys) :
      Reindexed table fresh start stop known result (xs ++ ys)

/-- Entities that the store found in a range of dates. -/
def Found (table : TableName) (start stop : Timestamp) (xs : List Exchange)
    (entities : List EntityId) : Prop :=
  ∃ column rows, ⟨.updatedBetween table column start stop, .ok rows⟩ ∈ xs ∧
    rows.mapM Store.idOfRow = .ok entities

namespace RangeRead

variable {table : TableName} {start stop : Timestamp} {known : Option UpdatedColumn}

theorem reads {result : Except Error (List EntityId)} {xs : List Exchange}
    (h : RangeRead table start stop known result xs) : ∀ x ∈ xs, x.statement.isWork = true :=
  h.isWork fun _ => rfl

theorem found {entities : List EntityId} {xs : List Exchange}
    (h : RangeRead table start stop known (.ok entities) xs) (ys : List Exchange) :
    Found table start stop (xs ++ ys) entities := by
  obtain ⟨column, rows, hsent, hrows⟩ := h.exists_rows
  exact ⟨column, rows, List.mem_append_left ys hsent, hrows⟩

end RangeRead

/-- Queues entities in a transaction of its own. -/
def queueing (fresh : Nat → TaskId) (entities : List EntityId) : Action Script Nat := do
  Script.begin
  let queued ← Script.orAbandon (Queue.enqueueBatch fresh entities reindexDateTag none)
  Script.commit
  pure queued.length

theorem says_queueing (fresh : Nat → TaskId) (entities : List EntityId) (s : Script) :
    Says id (Queued fresh entities) (queueing fresh entities) s := by
  rw [queueing]
  refine (says_simple .begin rfl s).bind ?_ ?_
  · rintro e _ rfl
    exact .unopened e
  rintro _ s₁ _ - rfl
  have hinsert := (Queue.says_enqueueBatch fresh entities reindexDateTag none s₁).orAbandon
  refine hinsert.bind ?_ ?_
  · rintro e _ ⟨ys, back, rfl, hys⟩
    split at hys
    · cases hys.1
    · rename_i hsome
      obtain ⟨answer, rfl, hanswer⟩ := hys
      cases answer with
      | ok rows => cases hanswer
      | error e' =>
          cases hanswer
          exact .refused hsome e back
  rintro queued s₂ xs - hqueued
  dsimp only at hqueued
  have hinserted : Inserted fresh entities xs ∧ queued.length = entities.length := by
    split at hqueued
    · rename_i hnone
      obtain ⟨hqueued, rfl⟩ := hqueued
      cases hqueued
      exact ⟨.nothing hnone, hnone ▸ rfl⟩
    · rename_i hsome
      obtain ⟨answer, rfl, hanswer⟩ := hqueued
      cases answer with
      | error e => cases hanswer
      | ok rows =>
          cases hanswer
          exact ⟨.batch hsome rows, by rw [List.length_map, List.length_range]⟩
  obtain ⟨hinserted, hlength⟩ := hinserted
  refine (says_finish .commit rfl s₂).bind ?_ ?_
  · rintro e _ ⟨back, rfl⟩
    exact .uncommitted hinserted e back
  · rintro _ s₃ _ - rfl
    rw [hlength]
    exact .value (.committed hinserted) s₃

theorem says_reindexDate (table : TableName) (fresh : Nat → TaskId) (start stop : Timestamp)
    (c : Connection) :
    Says Connection.script (Reindexed table fresh start stop c.column)
      (reindexDate table fresh start stop) c := by
  rw [reindexDate]
  split
  · rename_i hinverted
    exact .thrown (.inverted hinverted _) c
  rename_i hordered
  rw [Store.updatedBetween_eq]
  refine (Store.says_asking table _ (fun _ => rfl) c).bind ?_ ?_
  · exact fun e xs hread => .unread hordered hread
  · intro entities c' xs _ hread
    have hqueueing : Says Connection.script (Queued fresh entities)
        ((queueing fresh entities).within Connection.scriptPart) c' :=
      .within c' rfl (fun _ => rfl) (says_queueing fresh entities c'.script)
    exact hqueueing.mono fun x ys hqueued => .read hordered hread hqueued

/-! ### What lasts -/

/-- The inserted tasks that a database keeps. -/
structure Ledger where
  lasting : List StoredTask
  /-- The tasks of the transaction that is open, if one is. -/
  pending : Option (List StoredTask)

namespace Ledger

/-- The effect of a statement that succeeded; outside a transaction what is inserted lasts at once. -/
def apply (l : Ledger) : Statement → Ledger
  | .begin => ⟨l.lasting, some (l.pending.getD [])⟩
  | .commit => ⟨l.lasting ++ l.pending.getD [], none⟩
  | .rollback => ⟨l.lasting, none⟩
  | statement =>
    match l.pending with
    | some tasks => ⟨l.lasting, some (tasks ++ statement.stored)⟩
    | none => ⟨l.lasting ++ statement.stored, none⟩

/-- A statement that is refused has no effect. -/
def step (l : Ledger) (x : Exchange) : Ledger :=
  match x.answer with
  | .ok _ => l.apply x.statement
  | .error _ => l

/-- What a database keeps after exchanges, if it kept nothing before. -/
def after (xs : List Exchange) : Ledger := xs.foldl step ⟨[], none⟩

variable {l : Ledger} {xs : List Exchange}

theorem step_of_isWork {x : Exchange} (h : x.statement.isWork = true) : l.step x = l := by
  obtain ⟨statement, answer⟩ := x
  obtain ⟨tasks, pending⟩ := l
  cases answer with
  | error e => rfl
  | ok rows =>
      cases statement with
      | insertDeadLetter | deleteTask | deleteTasks | columnType | statuses | entities
      | updatedBetween => cases pending <;> simp [step, apply, Statement.stored]
      | _ => cases h

/-- Reads leave a ledger as it is. -/
theorem foldl_step_of_isWork (h : ∀ x ∈ xs, x.statement.isWork = true) : xs.foldl step l = l := by
  induction xs with
  | nil => rfl
  | cons x xs ih =>
      obtain ⟨hx, hxs⟩ := List.forall_mem_cons.mp h
      rw [List.foldl_cons, step_of_isWork hx, ih hxs]

/-- The tasks of entities are pending once they are inserted in a transaction. -/
theorem foldl_step_begin (h : Inserted fresh entities xs) (tasks : List StoredTask)
    (ys : List Exchange) :
    (⟨.begin, .ok []⟩ :: (xs ++ ys)).foldl step ⟨tasks, none⟩
      = ys.foldl step ⟨tasks, some (Queue.insertion fresh entities reindexDateTag none).stored⟩ := by
  cases h with
  | nothing hnone =>
      subst hnone
      rfl
  | batch _ rows => rfl

end Ledger

/-! ### What is sent -/

section

variable {r : Registry} {table : TableName} {start stop : Timestamp} {known : Option UpdatedColumn}
  {result : Except Error Nat} {xs : List Exchange}

theorem written_inserted (h : Inserted fresh entities xs) :
    written xs = (Queue.insertion fresh entities reindexDateTag none).stored := by
  cases h with
  | nothing hnone =>
      subst hnone
      rfl
  | batch _ rows => exact List.flatMap_singleton ..

theorem Queued.written_eq (h : Queued fresh entities result xs) :
    written xs = (Queue.insertion fresh entities reindexDateTag none).stored ∨
      written xs = [] ∧ ∃ e, result = .error e := by
  cases h with
  | unopened e => exact .inr ⟨rfl, e, rfl⟩
  | refused h e back => exact .inl (by simp [written, Statement.stored])
  | uncommitted h e back =>
      rw [← written_inserted h]
      exact .inl (by simp [written, Statement.stored])
  | committed h =>
      rw [← written_inserted h]
      exact .inl (by simp [written, Statement.stored])

/-- What is sent for a range of dates asks for the entities that were found in it; nothing is asked for
only if it fails. -/
theorem Reindexed.orders (hknown : r.kindOf reindexDateTag = some .syncEntity)
    (h : Reindexed table fresh start stop known result xs) :
    ∃ entities, Orders r (written xs) entities ∧
      (Found table start stop xs entities ∨ entities = [] ∧ ∃ e, result = .error e) := by
  cases h with
  | inverted _ e => exact ⟨[], .nil, .inr ⟨rfl, e, rfl⟩⟩
  | @unread e _ _ hread =>
      refine ⟨[], ?_, .inr ⟨rfl, e, rfl⟩⟩
      rw [written_of_isWork hread.reads]
      exact .nil
  | @read entities _ reads ys _ hread hqueued =>
      have hwritten : written (reads ++ ys) = written ys := by
        rw [written, List.flatMap_append, ← written, written_of_isWork hread.reads]
        rfl
      rw [hwritten]
      rcases hqueued.written_eq with hinsertion | ⟨hnothing, e, he⟩
      · refine ⟨entities, ?_, .inl (hread.found ys)⟩
        rw [hinsertion]
        exact (Queue.orders_insertion hknown fresh entities none).2.2
      · refine ⟨[], ?_, .inr ⟨rfl, e, he⟩⟩
        rw [hnothing]
        exact .nil

end

/-! ### All or nothing -/

namespace Queued

variable {result : Except Error Nat} {ys : List Exchange}

/-- **A commit decides**: entities are queued if and only if one succeeded. -/
theorem isOk_iff (h : Queued fresh entities result ys) :
    (∃ n, result = .ok n) ↔ ∃ y ∈ ys, y.statement = .commit ∧ y.Succeeded := by
  have hinserted : ∀ {zs : List Exchange}, Inserted fresh entities zs →
      ∀ z ∈ zs, z.statement ≠ .commit := by
    intro zs hzs
    cases hzs with
    | nothing => exact List.forall_mem_nil _
    | batch _ rows => exact List.forall_mem_singleton.mpr nofun
  cases h with
  | unopened e => simp
  | refused h e back => simp [Queue.insertion]
  | uncommitted h e back =>
      refine iff_of_false nofun ?_
      rintro ⟨y, hy, hcommit, rows, hrows⟩
      simp only [List.mem_cons, List.mem_append, List.not_mem_nil, or_false] at hy
      rcases hy with rfl | hy | rfl | rfl
      · cases hcommit
      · exact hinserted h y hy hcommit
      · cases hrows
      · cases hcommit
  | committed h => exact iff_of_true ⟨_, rfl⟩ ⟨⟨.commit, .ok []⟩, by simp, rfl, [], rfl⟩

/-- If entities could not be queued, none of their tasks lasts. -/
theorem lasting_error {e : Error} (h : Queued fresh entities (.error e) ys)
    (tasks : List StoredTask) : (ys.foldl Ledger.step ⟨tasks, none⟩).lasting = tasks := by
  cases h with
  | unopened => rfl
  | refused h _ back => cases back <;> rfl
  | uncommitted h _ back =>
      rw [Ledger.foldl_step_begin h]
      cases back <;> rfl

/-- If entities could be queued, all of their tasks last. -/
theorem lasting_ok {n : Nat} (h : Queued fresh entities (.ok n) ys) (tasks : List StoredTask) :
    (ys.foldl Ledger.step ⟨tasks, none⟩).lasting
      = tasks ++ (Queue.insertion fresh entities reindexDateTag none).stored := by
  cases h with
  | committed h =>
      rw [Ledger.foldl_step_begin h]
      rfl

end Queued

/-- The tasks of entities in their order: fresh identifiers, no time of their own, the tag of a range of
dates, and payloads that ask for these entities. -/
structure TasksOf (fresh : Nat → TaskId) (entities : List EntityId) (tasks : List StoredTask) :
    Prop where
  ids : tasks.map StoredTask.id = (List.range entities.length).map fresh
  nodup : Function.Injective fresh → (tasks.map StoredTask.id).Nodup
  unscheduled : ∀ t ∈ tasks, t.scheduledAt = none
  tagged : ∀ t ∈ tasks, t.tag = reindexDateTag
  orders : Orders Registry.standard tasks entities

theorem tasksOf_insertion (fresh : Nat → TaskId) (entities : List EntityId) :
    TasksOf fresh entities (Queue.insertion fresh entities reindexDateTag none).stored := by
  have hstandard : reindexDateTag ∈ Registry.Origin.standard.tags := by simp [Registry.Origin.tags]
  have hknown : Registry.Origin.standard.registry.kindOf reindexDateTag = some .syncEntity :=
    Registry.kindOf_registry.mpr hstandard
  obtain ⟨hids, hkept, horders⟩ := Queue.orders_insertion hknown fresh entities none
  refine ⟨hids, fun hfresh => ?_, fun t ht => (hkept t ht).1, fun t ht => (hkept t ht).2, horders⟩
  rw [hids]
  exact List.Nodup.map hfresh List.nodup_range

namespace Reindexed

variable {table : TableName} {start stop : Timestamp} {known : Option UpdatedColumn}
  {result : Except Error Nat} {xs : List Exchange}

theorem isOk_iff (h : Reindexed table fresh start stop known result xs) :
    (∃ n, result = .ok n) ↔ ∃ x ∈ xs, x.statement = .commit ∧ x.Succeeded := by
  have hnone : ∀ {ys : List Exchange}, (∀ y ∈ ys, y.statement.isWork = true) →
      ¬∃ y ∈ ys, y.statement = .commit ∧ y.Succeeded := by
    rintro ys hys ⟨y, hy, hcommit, -⟩
    have hwork := hys y hy
    rw [hcommit] at hwork
    cases hwork
  cases h with
  | inverted => simp
  | unread _ hread => exact iff_of_false nofun (hnone hread.reads)
  | read _ hread hqueued =>
      simp only [hqueued.isOk_iff, List.mem_append, or_and_right, exists_or]
      exact (or_iff_right (hnone hread.reads)).symm

theorem lasting_error {e : Error} (h : Reindexed table fresh start stop known (.error e) xs) :
    (Ledger.after xs).lasting = [] := by
  cases h with
  | inverted => rfl
  | unread _ hread =>
      rw [Ledger.after, Ledger.foldl_step_of_isWork hread.reads]
  | read _ hread hqueued =>
      rw [Ledger.after, List.foldl_append,
        Ledger.foldl_step_of_isWork hread.reads]
      exact hqueued.lasting_error []

theorem lasting_ok {n : Nat} (h : Reindexed table fresh start stop known (.ok n) xs) :
    ∃ entities, Found table start stop xs entities ∧ entities.length = n ∧
      TasksOf fresh entities (Ledger.after xs).lasting := by
  cases h with
  | @read entities _ reads ys _ hread hqueued =>
      have hlasting : (Ledger.after (reads ++ ys)).lasting
          = (Queue.insertion fresh entities reindexDateTag none).stored := by
        rw [Ledger.after, List.foldl_append,
          Ledger.foldl_step_of_isWork hread.reads]
        exact hqueued.lasting_ok []
      refine ⟨entities, hread.found ys, ?_, hlasting ▸ tasksOf_insertion fresh entities⟩
      cases hqueued
      rfl

end Reindexed

/-- **A range of dates is queued whole or not at all.**  The number of its entities is returned if and
only if a commit succeeded; then their tasks last, and after an error none does. -/
theorem reindexDate_all_or_nothing (table : TableName) (fresh : Nat → TaskId)
    (start stop : Timestamp) (c : Connection) :
    let run := (reindexDate table fresh start stop).exec c
    ∃ xs, Talks c.script xs run.2.script ∧
      Reindexed table fresh start stop c.column run.1 xs ∧
      ((∃ n, run.1 = .ok n) ↔ ∃ x ∈ xs, x.statement = .commit ∧ x.Succeeded) ∧
      (∀ e, run.1 = .error e → (Ledger.after xs).lasting = []) ∧
      (∀ n, run.1 = .ok n → ∃ entities, Found table start stop xs entities ∧
        entities.length = n ∧ TasksOf fresh entities (Ledger.after xs).lasting) ∧
      ∀ entities, TasksOf fresh entities
        (Queue.insertion fresh entities reindexDateTag none).stored := by
  intro run
  obtain ⟨xs, htalks, hreindexed⟩ := says_reindexDate table fresh start stop c
  refine ⟨xs, htalks, hreindexed, hreindexed.isOk_iff, ?_, ?_, tasksOf_insertion fresh⟩
  · intro e he
    exact Reindexed.lasting_error (he ▸ hreindexed)
  · intro n hn
    exact Reindexed.lasting_ok (hn ▸ hreindexed)

end Outbox.Database
