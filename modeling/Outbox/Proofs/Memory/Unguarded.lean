import Outbox.Proofs.Memory.Sound

/-!
# Claims that are asked for anything

Nothing keeps the holder of a claim from setting aside a task that the claim does not hold, or one
task twice.  Here any task may be set aside (`Traffic.stepAny`); every other event is as before.

Not much is left then of what `Sound` says of the queue.  Producers do not see what consumers do, so
what was committed is as sound as it is without any consumer; the queue is a part of that; and the
locks are those of the open claims, because a claim gives back its own tasks only, whatever it
deletes.

* `producers` — the traffic without its consumers, and `sound_producers_stepAny`;
* `Recorded` — what is left to rely on;
* `recorded_runAny` — it holds in every state that is reached.
-/

namespace Outbox.Memory

open Outbox.Time

namespace Claim

/-- Whatever a claim was asked, what it deletes it holds or sets aside, and what it sets aside it
deletes. -/
structure Accountable (c : Claim) : Prop where
  deletes : ∀ i ∈ c.deleted, i ∈ c.ids ∨ i ∈ c.quarantined.map fun d => d.task.id
  quarantined_deleted : ∀ d ∈ c.quarantined, d.task.id ∈ c.deleted

theorem Accountable.claimDue (q : Queue) (limit : Int) : (q.claimDue limit).1.Accountable :=
  ⟨nofun, nofun⟩

theorem Accountable.delete {c : Claim} (h : c.Accountable) (ids : List TaskId) :
    (c.delete ids).Accountable where
  deletes i hi := by
    rcases List.mem_append.mp hi with hi | hi
    · exact h.deletes i hi
    · exact .inl (of_decide_eq_true (List.mem_filter.mp hi).2)
  quarantined_deleted d hd := List.mem_append_left _ (h.quarantined_deleted d hd)

theorem Accountable.quarantine {c : Claim} (h : c.Accountable) (t : Task) (reason : String) :
    (c.quarantine t reason).Accountable where
  deletes i hi := by
    have hmap : (c.quarantine t reason).quarantined.map (fun d => d.task.id)
        = (c.quarantined.map fun d => d.task.id) ++ [t.id] := List.map_append
    rw [hmap]
    rcases List.mem_append.mp hi with hi | hi
    · exact (h.deletes i hi).imp_right (List.mem_append_left _)
    · exact .inr (List.mem_append_right _ hi)
  quarantined_deleted d hd := by
    rcases List.mem_append.mp hd with hd | hd
    · exact List.mem_append_left _ (h.quarantined_deleted d hd)
    · rw [List.mem_singleton.mp hd]
      exact List.mem_append_right _ (List.mem_singleton_self _)

end Claim

namespace Traffic

variable {ι κ : Type} [DecidableEq ι] [DecidableEq κ] {s : Traffic ι κ}

/-! ### Events -/

/-- Sets aside any task, whoever holds it and however often. -/
def quarantineAny (s : Traffic ι κ) (k : κ) (t : Task) (reason : String) : Traffic ι κ :=
  match s.claims k with
  | some c => { s with claims := Function.update s.claims k (some (c.quarantine t reason)) }
  | none => s

/-- Carries out one event; claims may be asked for anything. -/
def stepAny (s : Traffic ι κ) : Event ι κ → Traffic ι κ
  | .quarantine k t reason => s.quarantineAny k t reason
  | e => s.step e

/-- Carries out events in turn. -/
def runAny (s : Traffic ι κ) (es : List (Event ι κ)) : Traffic ι κ := es.foldl stepAny s

/-! ### Producers alone -/

/-- The traffic as it would be with nobody to consume. -/
def producers (s : Traffic ι κ) : Traffic ι κ :=
  { s with
    queue := ⟨s.committed, [], [], s.queue.now⟩
    claims := fun _ => none
    settled := [] }

omit [DecidableEq ι] [DecidableEq κ] in
@[simp] theorem producers_transactions (s : Traffic ι κ) :
    s.producers.transactions = s.transactions := rfl

omit [DecidableEq κ] in
theorem producers_stage (s : Traffic ι κ) (tx : ι) (new : List Task)
    (f : Transaction → Transaction) : (s.stage tx new f).producers = s.producers.stage tx new f := by
  rw [stage, stage, producers_transactions, show s.producers.issued = s.issued from rfl]
  split
  · split
    · rfl
    · rfl
  · rfl

omit [DecidableEq ι] in
theorem producers_release (s : Traffic ι κ) (k : κ) : (s.release k).producers = s.producers := by
  rw [release]
  split <;> rfl

/-- A transaction does not depend on consumers, and a consumer does not touch any. -/
theorem producers_stepAny (h : s.producers.Sound) (e : Event ι κ) :
    (s.stepAny e).producers = s.producers.step e ∨ (s.stepAny e).producers = s.producers := by
  cases e with
  | begin tx =>
      refine .inl ?_
      show (s.begin tx).producers = s.producers.begin tx
      rw [begin, begin, producers_transactions]
      split <;> rfl
  | enqueue tx id entity tag scheduledAt => exact .inl (s.producers_stage tx _ _)
  | enqueueRaw tx id tag payload scheduledAt => exact .inl (s.producers_stage tx _ _)
  | enqueueBatch tx items tag scheduledAt => exact .inl (s.producers_stage tx _ _)
  | commitTransaction tx =>
      refine .inl ?_
      show (s.commitTransaction tx).producers = s.producers.commitTransaction tx
      rw [commitTransaction, commitTransaction, producers_transactions]
      split
      · rename_i u hu
        have hstaged : u.staged = s.enqueued tx := h.staged_eq tx u hu
        simp only [producers, Queue.commitProducer, hstaged]
      · rfl
  | dropTransaction tx =>
      refine .inl ?_
      show (s.dropTransaction tx).producers = s.producers.dropTransaction tx
      rw [dropTransaction, dropTransaction, producers_transactions]
      split <;> rfl
  | advance nanos => exact .inl rfl
  | claimDue k limit =>
      refine .inr ?_
      show (s.claimDue k limit).producers = _
      rw [claimDue]
      split <;> rfl
  | delete k ids =>
      refine .inr ?_
      show (s.delete k ids).producers = _
      rw [delete]
      split <;> rfl
  | quarantine k t reason =>
      refine .inr ?_
      show (s.quarantineAny k t reason).producers = _
      rw [quarantineAny]
      split <;> rfl
  | commitClaim k =>
      refine .inr ?_
      show (s.commitClaim k).producers = _
      rw [commitClaim]
      split <;> rfl
  | rollback k => exact .inr (s.producers_release k)
  | dropClaim k => exact .inr (s.producers_release k)

theorem sound_producers_stepAny (h : s.producers.Sound) (e : Event ι κ) :
    (s.stepAny e).producers.Sound := by
  rcases producers_stepAny h e with heq | heq
  · exact heq ▸ h.step e
  · exact heq ▸ h

/-! ### What is left to rely on -/

/-- What holds whatever claims were asked for. -/
structure Recorded (s : Traffic ι κ) : Prop where
  producers : s.producers.Sound
  /-- The tasks are committed ones, in the order of the commits. -/
  tasks : s.queue.tasks.Sublist s.committed
  locks : Queue.Locks s.queue.locked s.claims
  held : ∀ k c, s.claims k = some c → ∀ t ∈ c.tasks, t ∈ s.committed
  accountable : ∀ k c, s.claims k = some c → c.Accountable

omit [DecidableEq ι] [DecidableEq κ]

theorem recorded_start (now : Time.Timestamp) : (start now : Traffic ι κ).Recorded :=
  ⟨sound_start now, List.nil_sublist _, .of_unlocked, nofun, nofun⟩

namespace Recorded

theorem committed_nodup (h : s.Recorded) : (s.committed.map Task.id).Nodup :=
  h.producers.committed_nodup

theorem tasks_nodup (h : s.Recorded) : (s.queue.tasks.map Task.id).Nodup :=
  (h.tasks.map _).nodup h.committed_nodup

/-- A committed task is told by its identifier. -/
theorem eq_of_id (h : s.Recorded) {t t' : Task} (ht : t ∈ s.committed) (ht' : t' ∈ s.committed)
    (hid : t.id = t'.id) : t = t' :=
  List.inj_on_of_nodup_map h.committed_nodup ht ht' hid

/-- A claim holds a task of the queue if it holds its identifier. -/
theorem mem_ids (h : s.Recorded) {k : κ} {c : Claim} (hc : s.claims k = some c) {t : Task}
    (ht : t ∈ s.queue.tasks) : t.id ∈ c.ids ↔ t ∈ c.tasks := by
  constructor
  · intro hid
    obtain ⟨t', ht', heq⟩ := List.mem_map.mp hid
    exact h.eq_of_id (h.held k c hc t' ht') (h.tasks.mem ht) heq ▸ ht'
  · exact List.mem_map_of_mem

/-- What producers do leaves claims and locks alone, and only adds tasks. -/
theorem produced (h : s.Recorded) {s' : Traffic ι κ} (hproducers : s'.producers.Sound)
    (new : List Task) (htasks : s'.queue.tasks = s.queue.tasks ++ new)
    (hcommitted : s'.committed = s.committed ++ new) (hlocked : s'.queue.locked = s.queue.locked)
    (hclaims : s'.claims = s.claims) : s'.Recorded where
  producers := hproducers
  tasks := by
    rw [htasks, hcommitted]
    exact h.tasks.append (List.Sublist.refl _)
  locks := by
    rw [hlocked, hclaims]
    exact h.locks
  held k c hc t ht := by
    rw [hcommitted]
    exact List.mem_append_left _ (h.held k c (hclaims ▸ hc) t ht)
  accountable k c hc := h.accountable k c (hclaims ▸ hc)

theorem stage [DecidableEq ι] (h : s.Recorded) {tx : ι} {new : List Task}
    {f : Transaction → Transaction} (hproducers : (s.stage tx new f).producers.Sound) :
    (s.stage tx new f).Recorded := by
  have hsame : (s.stage tx new f).queue = s.queue ∧ (s.stage tx new f).committed = s.committed ∧
      (s.stage tx new f).claims = s.claims := by
    rw [Traffic.stage]
    split
    · split
      · exact ⟨rfl, rfl, rfl⟩
      · exact ⟨rfl, rfl, rfl⟩
    · exact ⟨rfl, rfl, rfl⟩
  obtain ⟨hqueue, hcommitted, hclaims⟩ := hsame
  exact h.produced hproducers [] (by rw [hqueue, List.append_nil])
    (by rw [hcommitted, List.append_nil]) (by rw [hqueue]) hclaims

variable [DecidableEq κ]

/-- Asking a claim for something changes nothing but that claim. -/
theorem restage (h : s.Recorded) {k : κ} {c c' : Claim} (hc : s.claims k = some c)
    (htasks : c'.tasks = c.tasks) (haccountable : c'.Accountable) :
    ({ s with claims := Function.update s.claims k (some c') } : Traffic ι κ).Recorded where
  producers := h.producers
  tasks := h.tasks
  locks := h.locks.restage hc htasks
  held := forall_update h.held fun d hd t ht => by
    cases hd
    exact h.held k c hc t (htasks ▸ ht)
  accountable := forall_update h.accountable fun d hd => by
    cases hd
    exact haccountable

theorem claimDue (h : s.Recorded) (k : κ) (limit : Int) : (s.claimDue k limit).Recorded := by
  rw [Traffic.claimDue]
  split
  · rename_i hk
    exact {
      producers := h.producers
      tasks := h.tasks
      locks := h.locks.claimDue hk limit
      held := forall_update h.held fun d hd t ht => by
        cases hd
        exact h.tasks.mem (Queue.mem_of_mem_claimDue ht).1
      accountable := forall_update h.accountable fun d hd => by
        cases hd
        exact Claim.Accountable.claimDue _ _ }
  · exact h

theorem delete (h : s.Recorded) (k : κ) (ids : List TaskId) : (s.delete k ids).Recorded := by
  rw [Traffic.delete]
  split
  · rename_i c hc
    exact h.restage hc rfl ((h.accountable k c hc).delete ids)
  · exact h

theorem quarantineAny [DecidableEq ι] (h : s.Recorded) (k : κ) (t : Task) (reason : String) :
    (s.quarantineAny k t reason).Recorded := by
  rw [Traffic.quarantineAny]
  split
  · rename_i c hc
    exact h.restage hc rfl ((h.accountable k c hc).quarantine t reason)
  · exact h

/-- A claim that ends leaves a part of the tasks, and takes its own locks with it. -/
theorem ended (h : s.Recorded) {k : κ} {c : Claim} (hc : s.claims k = some c) (q : Queue)
    (hlocked : q.locked = (s.queue.release c).locked) (htasks : q.tasks.Sublist s.queue.tasks)
    (hnow : q.now = s.queue.now) (settled : List Claim) :
    ({ s with
        queue := q
        claims := Function.update s.claims k none
        settled := settled } : Traffic ι κ).Recorded where
  producers := by
    have hproducers := h.producers
    rw [Traffic.producers] at hproducers ⊢
    rw [hnow]
    exact hproducers
  tasks := htasks.trans h.tasks
  locks := hlocked ▸ h.locks.release hc
  held := forall_update h.held nofun
  accountable := forall_update h.accountable nofun

theorem commitClaim (h : s.Recorded) (k : κ) : (s.commitClaim k).Recorded := by
  rw [Traffic.commitClaim]
  split
  · rename_i c hc
    exact h.ended hc (s.queue.commitClaim c) rfl List.filter_sublist rfl _
  · exact h

theorem release (h : s.Recorded) (k : κ) : (s.release k).Recorded := by
  rw [Traffic.release]
  split
  · rename_i c hc
    exact h.ended hc (s.queue.release c) rfl (List.Sublist.refl _) rfl _
  · exact h

variable [DecidableEq ι]

/-- **Every event**, whatever claims are asked for. -/
theorem stepAny (h : s.Recorded) (e : Event ι κ) : (s.stepAny e).Recorded := by
  have hproducers := sound_producers_stepAny h.producers e
  cases e with
  | begin tx =>
      replace hproducers : (s.begin tx).producers.Sound := hproducers
      show (s.begin tx).Recorded
      rw [Traffic.begin] at hproducers ⊢
      split at hproducers
      · exact h.produced hproducers [] (List.append_nil _).symm (List.append_nil _).symm
          rfl rfl
      · exact h
  | enqueue tx id entity tag scheduledAt => exact h.stage hproducers
  | enqueueRaw tx id tag payload scheduledAt => exact h.stage hproducers
  | enqueueBatch tx items tag scheduledAt => exact h.stage hproducers
  | commitTransaction tx =>
      replace hproducers : (s.commitTransaction tx).producers.Sound := hproducers
      show (s.commitTransaction tx).Recorded
      rw [Traffic.commitTransaction] at hproducers ⊢
      split at hproducers
      · rename_i u hu
        have hstaged : u.staged = s.enqueued tx := h.producers.staged_eq tx u hu
        exact h.produced hproducers u.staged rfl (by rw [hstaged]) rfl rfl
      · exact h
  | dropTransaction tx =>
      replace hproducers : (s.dropTransaction tx).producers.Sound := hproducers
      show (s.dropTransaction tx).Recorded
      rw [Traffic.dropTransaction] at hproducers ⊢
      split at hproducers
      · exact h.produced hproducers [] (List.append_nil _).symm (List.append_nil _).symm
          rfl rfl
      · exact h
  | advance nanos =>
      exact h.produced hproducers [] (List.append_nil _).symm (List.append_nil _).symm
        rfl rfl
  | claimDue k limit => exact h.claimDue k limit
  | delete k ids => exact h.delete k ids
  | quarantine k t reason => exact h.quarantineAny k t reason
  | commitClaim k => exact h.commitClaim k
  | rollback k => exact h.release k
  | dropClaim k => exact h.release k

theorem runAny (h : s.Recorded) (es : List (Event ι κ)) : (s.runAny es).Recorded := by
  induction es generalizing s with
  | nil => exact h
  | cons e es ih => exact ih (h.stepAny e)

end Recorded

/-- **Every state that is reached.** -/
theorem recorded_runAny [DecidableEq ι] [DecidableEq κ] (now : Timestamp) (es : List (Event ι κ)) :
    ((start now).runAny es).Recorded :=
  (recorded_start now).runAny es

end Traffic

end Outbox.Memory
