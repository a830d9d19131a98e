import Outbox.Proofs.Memory.Traffic

/-!
# What every event keeps

`Traffic.Sound` ties a queue in use to what happened on it.  Two equations carry it: the tasks are
those that were committed and that no committed claim deleted, and the dead letters are those of the
committed claims in turn.  The rest keeps identifiers apart.

* `Sound.withTransactions`, `Sound.withClaims` — what an event has to show that touches only the
  transactions, or only the claims;
* `Sound.commitTransaction`, `Sound.commitClaim` — the two events that change the tasks;
* `Sound.step`, `Sound.run` — every event keeps it, and so does every list of events.
-/

namespace Outbox.Memory

open Outbox.Time

namespace Transaction

/-! ### What staging adds -/

theorem stageBatch_eq (tx : Transaction) (now : Timestamp) (tag : String)
    (scheduledAt : Option Timestamp) (items : List (TaskId × EntityId)) :
    (tx.stageBatch now tag scheduledAt items).staged = tx.staged ++ items.map fun item =>
      ⟨item.1, now, scheduledAt.getD now, tag, (Payload.syncEntity item.2).toJson⟩ := by
  induction items generalizing tx with
  | nil => exact (List.append_nil _).symm
  | cons item items ih =>
      obtain ⟨id, entity⟩ := item
      rw [stageBatch, ih, stage, stageRaw, List.append_assoc, List.map_cons, List.singleton_append]

end Transaction

/-! ### What holds of the claims and of the queue -/

/-- What a claim asks for concerns its own tasks, and no task is quarantined twice. -/
structure Claim.Proper (c : Claim) : Prop where
  deletes_own : ∀ i ∈ c.deleted, i ∈ c.ids
  quarantines_own : ∀ d ∈ c.quarantined, d.task ∈ c.tasks
  quarantined_deleted : ∀ d ∈ c.quarantined, d.task.id ∈ c.deleted
  once : (c.quarantined.map fun d => d.task.id).Nodup

theorem Claim.Proper.claimDue (q : Queue) (limit : Int) : (q.claimDue limit).1.Proper :=
  ⟨nofun, nofun, nofun, List.nodup_nil⟩

theorem Claim.Proper.delete {c : Claim} (h : c.Proper) (ids : List TaskId) :
    (c.delete ids).Proper where
  deletes_own i hi := by
    rcases List.mem_append.mp hi with hi | hi
    · exact h.deletes_own i hi
    · exact of_decide_eq_true (List.mem_filter.mp hi).2
  quarantines_own := h.quarantines_own
  quarantined_deleted d hd := List.mem_append_left _ (h.quarantined_deleted d hd)
  once := h.once

theorem Claim.Proper.quarantine {c : Claim} (h : c.Proper) {t : Task} (reason : String)
    (ht : t ∈ c.tasks) (hnew : t.id ∉ c.quarantined.map fun d => d.task.id) :
    (c.quarantine t reason).Proper where
  deletes_own i hi := by
    rcases List.mem_append.mp hi with hi | hi
    · exact h.deletes_own i hi
    · rw [List.mem_singleton.mp hi]
      exact List.mem_map_of_mem ht
  quarantines_own d hd := by
    rcases List.mem_append.mp hd with hd | hd
    · exact h.quarantines_own d hd
    · rw [List.mem_singleton.mp hd]
      exact ht
  quarantined_deleted d hd := by
    rcases List.mem_append.mp hd with hd | hd
    · exact List.mem_append_left _ (h.quarantined_deleted d hd)
    · rw [List.mem_singleton.mp hd]
      exact List.mem_append_right _ (List.mem_singleton_self _)
  once := by
    show ((c.quarantined ++ [DeadLetter.mk t reason]).map fun d => d.task.id).Nodup
    rw [List.map_append]
    refine h.once.append (List.nodup_singleton _) fun i hi hi' => hnew ?_
    rw [List.mem_singleton.mp hi'] at hi
    exact hi

namespace Traffic

variable {ι κ : Type} {s : Traffic ι κ}

/-- A task that was staged and not committed: its transaction is open, or was dropped. -/
def Uncommitted (s : Traffic ι κ) (t : Task) : Prop :=
  (∃ tx u, s.transactions tx = some u ∧ t ∈ u.staged) ∨ t ∈ s.dropped

/-- The queue as its history makes it. -/
structure Sound (s : Traffic ι κ) : Prop where
  fits : s.queue.Fits s.claims
  /-- What is staged is what was enqueued. -/
  staged_eq : ∀ tx u, s.transactions tx = some u → u.staged = s.enqueued tx
  staged_nodup : ∀ tx u, s.transactions tx = some u → (u.staged.map Task.id).Nodup
  /-- No two open transactions share an identifier. -/
  staged_apart : ∀ tx tx' u u', s.transactions tx = some u → s.transactions tx' = some u' →
    tx ≠ tx' → ∀ t ∈ u.staged, ∀ t' ∈ u'.staged, t.id ≠ t'.id
  dropped_apart : ∀ tx u, s.transactions tx = some u →
    ∀ t ∈ u.staged, ∀ t' ∈ s.dropped, t.id ≠ t'.id
  uncommitted_issued : ∀ t, s.Uncommitted t → t.id ∈ s.issued
  uncommitted_apart : ∀ t, s.Uncommitted t → t.id ∉ s.committed.map Task.id
  committed_nodup : (s.committed.map Task.id).Nodup
  committed_issued : ∀ t ∈ s.committed, t.id ∈ s.issued
  /-- The tasks are those that no committed claim deleted. -/
  tasks_eq : s.queue.tasks = s.committed.filter fun t => ∀ c ∈ s.settled, t.id ∉ c.deleted
  /-- The dead letters are those of the committed claims. -/
  deadLetters_eq : s.queue.deadLetters = s.settled.flatMap Claim.quarantined
  deadLetters_nodup : (s.queue.deadLetters.map fun d => d.task.id).Nodup
  open_proper : ∀ k c, s.claims k = some c → c.Proper
  settled_proper : ∀ c ∈ s.settled, c.Proper
  settled_held : ∀ c ∈ s.settled, ∀ t ∈ c.tasks, t ∈ s.committed
  /-- No task was deleted twice. -/
  settled_apart : s.settled.Pairwise fun c c' => ∀ i ∈ c.deleted, i ∉ c'.deleted

theorem Sound.mem_committed (h : s.Sound) {t : Task} (ht : t ∈ s.queue.tasks) :
    t ∈ s.committed := by
  rw [h.tasks_eq] at ht
  exact (List.mem_filter.mp ht).1

theorem Sound.notMem_deleted (h : s.Sound) {t : Task} (ht : t ∈ s.queue.tasks)
    {c : Claim} (hc : c ∈ s.settled) : t.id ∉ c.deleted := by
  rw [h.tasks_eq] at ht
  exact of_decide_eq_true (List.mem_filter.mp ht).2 c hc

/-- Whoever was quarantined in a commit is not in the queue any more. -/
theorem Sound.notMem_of_deadLetter (h : s.Sound) {t : Task}
    (ht : t ∈ s.queue.tasks) : t.id ∉ s.queue.deadLetters.map fun d => d.task.id := by
  intro hmem
  obtain ⟨d, hd, hid⟩ := List.mem_map.mp hmem
  rw [h.deadLetters_eq] at hd
  obtain ⟨c, hc, hdc⟩ := List.mem_flatMap.mp hd
  have hdel := (h.settled_proper c hc).quarantined_deleted d hdc
  exact h.notMem_deleted ht hc (hid ▸ hdel)

theorem sound_start (now : Timestamp) : (start now : Traffic ι κ).Sound where
  fits := Queue.Fits.of_unlocked List.nodup_nil rfl
  staged_eq := nofun
  staged_nodup := nofun
  staged_apart := nofun
  dropped_apart := nofun
  uncommitted_issued := by
    rintro t (⟨tx, u, hu, -⟩ | ht)
    · cases hu
    · cases ht
  uncommitted_apart := fun _ _ => List.not_mem_nil
  committed_nodup := List.nodup_nil
  committed_issued := nofun
  tasks_eq := rfl
  deadLetters_eq := rfl
  deadLetters_nodup := List.nodup_nil
  open_proper := nofun
  settled_proper := nofun
  settled_held := nofun
  settled_apart := List.Pairwise.nil

namespace Sound

/-! ### Transactions -/

/-- Transactions may change as long as no identifier is used twice. -/
theorem withTransactions (h : s.Sound) {transactions : ι → Option Transaction}
    {issued : List TaskId} {enqueued : ι → List Task} {dropped : List Task}
    (hstaged : ∀ tx u, transactions tx = some u → u.staged = enqueued tx)
    (hissued : ∀ i ∈ s.issued, i ∈ issued)
    (hnodup : ∀ tx u, transactions tx = some u → (u.staged.map Task.id).Nodup)
    (hapart : ∀ tx tx' u u', transactions tx = some u → transactions tx' = some u' → tx ≠ tx' →
      ∀ t ∈ u.staged, ∀ t' ∈ u'.staged, t.id ≠ t'.id)
    (hdropped : ∀ tx u, transactions tx = some u → ∀ t ∈ u.staged, ∀ t' ∈ dropped, t.id ≠ t'.id)
    (hopen : ∀ tx u, transactions tx = some u → ∀ t ∈ u.staged,
      t.id ∈ issued ∧ t.id ∉ s.committed.map Task.id)
    (hgone : ∀ t ∈ dropped, t.id ∈ issued ∧ t.id ∉ s.committed.map Task.id) :
    ({ s with
        transactions := transactions
        issued := issued
        enqueued := enqueued
        dropped := dropped } : Traffic ι κ).Sound where
  fits := h.fits
  staged_eq := hstaged
  staged_nodup := hnodup
  staged_apart := hapart
  dropped_apart := hdropped
  uncommitted_issued := by
    rintro t (⟨tx, u, hu, ht⟩ | ht)
    · exact (hopen tx u hu t ht).1
    · exact (hgone t ht).1
  uncommitted_apart := by
    rintro t (⟨tx, u, hu, ht⟩ | ht)
    · exact (hopen tx u hu t ht).2
    · exact (hgone t ht).2
  committed_nodup := h.committed_nodup
  committed_issued t ht := hissued _ (h.committed_issued t ht)
  tasks_eq := h.tasks_eq
  deadLetters_eq := h.deadLetters_eq
  deadLetters_nodup := h.deadLetters_nodup
  open_proper := h.open_proper
  settled_proper := h.settled_proper
  settled_held := h.settled_held
  settled_apart := h.settled_apart

theorem staged_issued (h : s.Sound) {tx : ι} {u : Transaction} (hu : s.transactions tx = some u)
    {t : Task} (ht : t ∈ u.staged) : t.id ∈ s.issued ∧ t.id ∉ s.committed.map Task.id :=
  have hun : s.Uncommitted t := .inl ⟨tx, u, hu, ht⟩
  ⟨h.uncommitted_issued t hun, h.uncommitted_apart t hun⟩

theorem dropped_issued (h : s.Sound) {t : Task} (ht : t ∈ s.dropped) :
    t.id ∈ s.issued ∧ t.id ∉ s.committed.map Task.id :=
  ⟨h.uncommitted_issued t (.inr ht), h.uncommitted_apart t (.inr ht)⟩

/-- A claim holds nothing that was not committed. -/
theorem notMem_ids_of_held {t : Task} (ht : t.id ∉ s.committed.map Task.id) {c : Claim}
    (hc : ∀ t' ∈ c.tasks, t' ∈ s.committed) : t.id ∉ c.ids := by
  intro hmem
  obtain ⟨t', ht', hid⟩ := List.mem_map.mp hmem
  exact ht (hid ▸ List.mem_map_of_mem (hc t' ht'))

variable [DecidableEq ι]

/-- A transaction goes on with what was enqueued in it. -/
theorem staged_eq_update (h : s.Sound) {tx : ι} {v : Transaction} {new : List Task}
    (hnew : v.staged = new) : ∀ tx' u, Function.update s.transactions tx (some v) tx' = some u →
      u.staged = Function.update s.enqueued tx new tx' := by
  intro tx' u hu
  rw [Function.update_apply] at hu ⊢
  split at hu
  · obtain rfl := Option.some.inj hu
    rw [if_pos ‹_›, hnew]
  · rw [if_neg ‹_›, h.staged_eq tx' u hu]

theorem begin (h : s.Sound) (tx : ι) : (s.begin tx).Sound := by
  rw [Traffic.begin]
  split
  · have hback : ∀ tx' u, Function.update s.transactions tx (some .empty) tx' = some u →
        ∀ t ∈ u.staged, s.transactions tx' = some u := by
      intro tx' u hu t ht
      rw [Function.update_apply] at hu
      split at hu
      · cases hu
        cases ht
      · exact hu
    refine h.withTransactions (h.staged_eq_update rfl) (fun i hi => hi) ?_ ?_ ?_ ?_
      fun t => h.dropped_issued
    · refine forall_update h.staged_nodup ?_
      rintro u ⟨⟩
      exact List.nodup_nil
    · intro tx₁ tx₂ u₁ u₂ h₁ h₂ hne t₁ ht₁ t₂ ht₂
      exact h.staged_apart tx₁ tx₂ u₁ u₂ (hback tx₁ u₁ h₁ t₁ ht₁) (hback tx₂ u₂ h₂ t₂ ht₂) hne
        t₁ ht₁ t₂ ht₂
    · intro tx' u hu t ht
      exact h.dropped_apart tx' u (hback tx' u hu t ht) t ht
    · intro tx' u hu t ht
      exact h.staged_issued (hback tx' u hu t ht) ht
  · exact h

/-- **Staging.**  What is staged under new identifiers is told from everything before it. -/
theorem stage (h : s.Sound) (tx : ι) {new : List Task} {f : Transaction → Transaction}
    (hf : ∀ u, (f u).staged = u.staged ++ new) : (s.stage tx new f).Sound := by
  rw [Traffic.stage]
  split
  · rename_i u hu
    split
    · rename_i hfresh
      -- every staged task is an old one of that transaction, or new
      have hback : ∀ tx' v, Function.update s.transactions tx (some (f u)) tx' = some v →
          ∀ t ∈ v.staged, (∃ v', s.transactions tx' = some v' ∧ t ∈ v'.staged) ∨
            (tx' = tx ∧ t.id ∈ new.map Task.id) := by
        intro tx' v hv t ht
        rw [Function.update_apply] at hv
        split at hv
        · rename_i htx
          cases hv
          rw [hf] at ht
          rcases List.mem_append.mp ht with ht | ht
          · exact .inl ⟨u, htx ▸ hu, ht⟩
          · exact .inr ⟨htx, List.mem_map_of_mem ht⟩
        · exact .inl ⟨v, hv, ht⟩
      have hnotIssued : ∀ i ∈ new.map Task.id, i ∉ s.issued := hfresh.2
      have hstaged : (f u).staged = s.enqueued tx ++ new := by rw [hf, h.staged_eq tx u hu]
      refine h.withTransactions (h.staged_eq_update hstaged) (fun i => List.mem_append_left _)
        ?_ ?_ ?_ ?_ ?_
      · refine forall_update h.staged_nodup ?_
        rintro v ⟨⟩
        rw [hf, List.map_append]
        refine (h.staged_nodup tx u hu).append hfresh.1 fun i hi hi' => ?_
        obtain ⟨t, ht, rfl⟩ := List.mem_map.mp hi
        exact hnotIssued _ hi' (h.staged_issued hu ht).1
      · intro tx₁ tx₂ u₁ u₂ h₁ h₂ hne t₁ ht₁ t₂ ht₂ heq
        rcases hback tx₁ u₁ h₁ t₁ ht₁ with ⟨v₁, hv₁, hm₁⟩ | ⟨rfl, hn₁⟩
        · rcases hback tx₂ u₂ h₂ t₂ ht₂ with ⟨v₂, hv₂, hm₂⟩ | ⟨rfl, hn₂⟩
          · exact h.staged_apart tx₁ tx₂ v₁ v₂ hv₁ hv₂ hne t₁ hm₁ t₂ hm₂ heq
          · exact hnotIssued _ hn₂ (heq ▸ (h.staged_issued hv₁ hm₁).1)
        · rcases hback tx₂ u₂ h₂ t₂ ht₂ with ⟨v₂, hv₂, hm₂⟩ | ⟨rfl, hn₂⟩
          · exact hnotIssued _ hn₁ (heq ▸ (h.staged_issued hv₂ hm₂).1)
          · exact hne rfl
      · intro tx' v hv t ht t' ht' heq
        rcases hback tx' v hv t ht with ⟨v', hv', hm⟩ | ⟨-, hn⟩
        · exact h.dropped_apart tx' v' hv' t hm t' ht' heq
        · exact hnotIssued _ hn (heq ▸ (h.dropped_issued ht').1)
      · intro tx' v hv t ht
        rcases hback tx' v hv t ht with ⟨v', hv', hm⟩ | ⟨-, hn⟩
        · exact ⟨List.mem_append_left _ (h.staged_issued hv' hm).1, (h.staged_issued hv' hm).2⟩
        · refine ⟨List.mem_append_right _ hn, fun hmem => ?_⟩
          obtain ⟨t', ht', heq⟩ := List.mem_map.mp hmem
          exact hnotIssued _ hn (heq ▸ h.committed_issued t' ht')
      · intro t ht
        exact ⟨List.mem_append_left _ (h.dropped_issued ht).1, (h.dropped_issued ht).2⟩
    · exact h
  · exact h

theorem dropTransaction (h : s.Sound) (tx : ι) : (s.dropTransaction tx).Sound := by
  rw [Traffic.dropTransaction]
  split
  · rename_i u hu
    rw [← h.staged_eq tx u hu]
    refine h.withTransactions ?_ (fun i hi => hi) ?_ ?_ ?_ ?_ ?_
    · intro tx' v hv
      exact h.staged_eq tx' v (of_ended hv).2
    · intro tx' v hv
      exact h.staged_nodup tx' v (of_ended hv).2
    · intro tx₁ tx₂ u₁ u₂ h₁ h₂
      exact h.staged_apart tx₁ tx₂ u₁ u₂ (of_ended h₁).2 (of_ended h₂).2
    · intro tx' v hv t ht t' ht'
      obtain ⟨hne, hv⟩ := of_ended hv
      rcases List.mem_append.mp ht' with ht' | ht'
      · exact h.dropped_apart tx' v hv t ht t' ht'
      · exact h.staged_apart tx' tx v u hv hu hne t ht t' ht'
    · intro tx' v hv t
      exact h.staged_issued (of_ended hv).2
    · intro t ht
      rcases List.mem_append.mp ht with ht | ht
      · exact h.dropped_issued ht
      · exact h.staged_issued hu ht
  · exact h

/-- **Committing a transaction.**  Its tasks join the queue, and no claim deleted them before. -/
theorem commitTransaction (h : s.Sound) (tx : ι) : (s.commitTransaction tx).Sound := by
  rw [Traffic.commitTransaction]
  split
  · rename_i u hu
    rw [← h.staged_eq tx u hu]
    have hnew : ∀ t ∈ u.staged, t.id ∉ s.committed.map Task.id := fun t ht =>
      (h.staged_issued hu ht).2
    have hsurvive : ∀ t ∈ u.staged, ∀ c ∈ s.settled, t.id ∉ c.deleted := by
      intro t ht c hc hdel
      have hown := (h.settled_proper c hc).deletes_own _ hdel
      exact notMem_ids_of_held (hnew t ht) (h.settled_held c hc) hown
    constructor
    case fits =>
      refine h.fits.commitProducer (h.staged_nodup tx u hu) fun i hi hi' => ?_
      obtain ⟨t, ht, rfl⟩ := List.mem_map.mp hi
      obtain ⟨t', ht', hid⟩ := List.mem_map.mp hi'
      exact hnew t ht (hid ▸ List.mem_map_of_mem (h.mem_committed ht'))
    case staged_eq =>
      intro tx' v hv
      exact h.staged_eq tx' v (of_ended hv).2
    case staged_nodup =>
      intro tx' v hv
      exact h.staged_nodup tx' v (of_ended hv).2
    case staged_apart =>
      intro tx₁ tx₂ u₁ u₂ h₁ h₂
      exact h.staged_apart tx₁ tx₂ u₁ u₂ (of_ended h₁).2 (of_ended h₂).2
    case dropped_apart =>
      intro tx' v hv
      exact h.dropped_apart tx' v (of_ended hv).2
    case uncommitted_issued =>
      rintro t (⟨tx', v, hv, ht⟩ | ht)
      · exact (h.staged_issued (of_ended hv).2 ht).1
      · exact (h.dropped_issued ht).1
    case uncommitted_apart =>
      intro t ht hmem
      rw [List.map_append] at hmem
      rcases ht with ⟨tx', v, hv, ht⟩ | ht
      · obtain ⟨hne, hv⟩ := of_ended hv
        rcases List.mem_append.mp hmem with hmem | hmem
        · exact (h.staged_issued hv ht).2 hmem
        · obtain ⟨t', ht', hid⟩ := List.mem_map.mp hmem
          exact h.staged_apart tx' tx v u hv hu hne t ht t' ht' hid.symm
      · rcases List.mem_append.mp hmem with hmem | hmem
        · exact (h.dropped_issued ht).2 hmem
        · obtain ⟨t', ht', hid⟩ := List.mem_map.mp hmem
          exact h.dropped_apart tx u hu t' ht' t ht hid
    case committed_nodup =>
      rw [List.map_append]
      refine h.committed_nodup.append (h.staged_nodup tx u hu) fun i hi hi' => ?_
      obtain ⟨t, ht, rfl⟩ := List.mem_map.mp hi'
      exact hnew t ht hi
    case committed_issued =>
      intro t ht
      rcases List.mem_append.mp ht with ht | ht
      · exact h.committed_issued t ht
      · exact (h.staged_issued hu ht).1
    case tasks_eq =>
      show s.queue.tasks ++ u.staged = _
      rw [List.filter_append, ← h.tasks_eq]
      rw [List.filter_eq_self.mpr fun t ht => decide_eq_true (hsurvive t ht)]
    case deadLetters_eq => exact h.deadLetters_eq
    case deadLetters_nodup => exact h.deadLetters_nodup
    case open_proper => exact h.open_proper
    case settled_proper => exact h.settled_proper
    case settled_held =>
      intro c hc t ht
      exact List.mem_append_left _ (h.settled_held c hc t ht)
    case settled_apart => exact h.settled_apart
  · exact h

omit [DecidableEq ι]

/-! ### Claims -/

/-- Claims may change as long as they fit the queue, which shows the same tasks and dead letters. -/
theorem withClaims (h : s.Sound) {q : Queue} {claims : κ → Option Claim}
    (htasks : q.tasks = s.queue.tasks) (hdead : q.deadLetters = s.queue.deadLetters)
    (hfits : q.Fits claims) (hproper : ∀ k c, claims k = some c → c.Proper) :
    ({ s with queue := q, claims := claims } : Traffic ι κ).Sound where
  fits := hfits
  staged_eq := h.staged_eq
  staged_nodup := h.staged_nodup
  staged_apart := h.staged_apart
  dropped_apart := h.dropped_apart
  uncommitted_issued := h.uncommitted_issued
  uncommitted_apart := h.uncommitted_apart
  committed_nodup := h.committed_nodup
  committed_issued := h.committed_issued
  tasks_eq := htasks.trans h.tasks_eq
  deadLetters_eq := hdead.trans h.deadLetters_eq
  deadLetters_nodup := hdead ▸ h.deadLetters_nodup
  open_proper := hproper
  settled_proper := h.settled_proper
  settled_held := h.settled_held
  settled_apart := h.settled_apart

theorem advance (h : s.Sound) (nanos : Int) :
    ({ s with queue := s.queue.advance nanos } : Traffic ι κ).Sound :=
  h.withClaims rfl rfl (h.fits.advance nanos) h.open_proper

variable [DecidableEq κ]

theorem claimDue (h : s.Sound) (k : κ) (limit : Int) : (s.claimDue k limit).Sound := by
  rw [Traffic.claimDue]
  split
  · refine h.withClaims rfl rfl (h.fits.claimDue ‹_› limit) (forall_update h.open_proper ?_)
    rintro d ⟨⟩
    exact Claim.Proper.claimDue _ _
  · exact h

theorem delete (h : s.Sound) (k : κ) (ids : List TaskId) : (s.delete k ids).Sound := by
  rw [Traffic.delete]
  split
  · rename_i c hc
    have hproper := (h.open_proper k c hc).delete ids
    refine h.withClaims rfl rfl (h.fits.restage hc rfl hproper.deletes_own) (forall_update h.open_proper ?_)
    rintro d ⟨⟩
    exact hproper
  · exact h

theorem quarantine (h : s.Sound) (k : κ) (t : Task) (reason : String) :
    (s.quarantine k t reason).Sound := by
  rw [Traffic.quarantine]
  split
  · rename_i c hc
    split
    · rename_i hown
      -- a task with that identifier that was quarantined before would be this one
      have hnew : t.id ∉ c.quarantined.map fun d => d.task.id := by
        intro hmem
        obtain ⟨d, hd, hid⟩ := List.mem_map.mp hmem
        have htask := h.fits.eq_of_id
          (h.fits.held k c hc _ ((h.open_proper k c hc).quarantines_own d hd))
          (h.fits.held k c hc t hown.1) hid
        exact hown.2 (htask ▸ List.mem_map_of_mem hd)
      have hproper := (h.open_proper k c hc).quarantine reason hown.1 hnew
      refine h.withClaims rfl rfl (h.fits.restage hc rfl hproper.deletes_own) (forall_update h.open_proper ?_)
      rintro d ⟨⟩
      exact hproper
    · exact h
  · exact h

theorem release (h : s.Sound) (k : κ) : (s.release k).Sound := by
  rw [Traffic.release]
  split
  · exact h.withClaims rfl rfl (h.fits.release ‹_›) (forall_update h.open_proper nofun)
  · exact h

/-- **Committing a claim.**  It deletes tasks of the queue, which no claim before it deleted. -/
theorem commitClaim (h : s.Sound) (k : κ) : (s.commitClaim k).Sound := by
  rw [Traffic.commitClaim]
  split
  · rename_i c hc
    have hproper := h.open_proper k c hc
    have hheld : ∀ t ∈ c.tasks, t ∈ s.queue.tasks := h.fits.held k c hc
    constructor
    case fits => exact h.fits.commitClaim hc
    case staged_eq => exact h.staged_eq
    case staged_nodup => exact h.staged_nodup
    case staged_apart => exact h.staged_apart
    case dropped_apart => exact h.dropped_apart
    case uncommitted_issued => exact h.uncommitted_issued
    case uncommitted_apart => exact h.uncommitted_apart
    case committed_nodup => exact h.committed_nodup
    case committed_issued => exact h.committed_issued
    case tasks_eq =>
      show s.queue.tasks.filter (fun t => t.id ∉ c.deleted) = _
      rw [h.tasks_eq, List.filter_filter]
      refine List.filter_congr fun t _ => ?_
      rw [← Bool.decide_and]
      refine decide_eq_decide.mpr ?_
      constructor
      · rintro ⟨hlast, hbefore⟩ d hd
        rcases List.mem_append.mp hd with hd | hd
        · exact hbefore d hd
        · rw [List.mem_singleton.mp hd]
          exact hlast
      · intro hall
        exact ⟨hall c (List.mem_append_right _ (List.mem_singleton_self c)),
          fun d hd => hall d (List.mem_append_left _ hd)⟩
    case deadLetters_eq =>
      show s.queue.deadLetters ++ c.quarantined = _
      rw [List.flatMap_append, h.deadLetters_eq, List.flatMap_singleton]
    case deadLetters_nodup =>
      show ((s.queue.deadLetters ++ c.quarantined).map fun d => d.task.id).Nodup
      rw [List.map_append]
      refine h.deadLetters_nodup.append hproper.once fun i hi hi' => ?_
      obtain ⟨d, hd, rfl⟩ := List.mem_map.mp hi'
      exact h.notMem_of_deadLetter (hheld _ (hproper.quarantines_own d hd)) hi
    case open_proper => exact forall_update h.open_proper nofun
    case settled_proper =>
      intro d hd
      rcases List.mem_append.mp hd with hd | hd
      · exact h.settled_proper d hd
      · rw [List.mem_singleton.mp hd]
        exact hproper
    case settled_held =>
      intro d hd t ht
      rcases List.mem_append.mp hd with hd | hd
      · exact h.settled_held d hd t ht
      · rw [List.mem_singleton.mp hd] at ht
        exact h.mem_committed (hheld t ht)
    case settled_apart =>
      refine List.pairwise_append.mpr ⟨h.settled_apart, List.pairwise_singleton _ c, ?_⟩
      intro d hd d' hd' i hi hi'
      rw [List.mem_singleton.mp hd'] at hi'
      obtain ⟨t, ht, rfl⟩ := List.mem_map.mp (hproper.deletes_own i hi')
      exact h.notMem_deleted (hheld t ht) hd hi
  · exact h

/-! ### Every event, and every list of events -/

variable [DecidableEq ι]

/-- **Every event keeps the queue sound.** -/
theorem step (h : s.Sound) (e : Event ι κ) : (s.step e).Sound := by
  cases e with
  | begin tx => exact h.begin tx
  | enqueue tx id entity tag scheduledAt => exact h.stage tx fun u => rfl
  | enqueueRaw tx id tag payload scheduledAt => exact h.stage tx fun u => rfl
  | enqueueBatch tx items tag scheduledAt =>
      exact h.stage tx fun u => u.stageBatch_eq _ tag scheduledAt items
  | commitTransaction tx => exact h.commitTransaction tx
  | dropTransaction tx => exact h.dropTransaction tx
  | claimDue k limit => exact h.claimDue k limit
  | delete k ids => exact h.delete k ids
  | quarantine k t reason => exact h.quarantine k t reason
  | commitClaim k => exact h.commitClaim k
  | rollback k => exact h.release k
  | dropClaim k => exact h.release k
  | advance nanos => exact h.advance nanos

/-- So does every list of events. -/
theorem run (h : s.Sound) (es : List (Event ι κ)) : (s.run es).Sound := by
  induction es generalizing s with
  | nil => exact h
  | cons e es ih => exact ih (h.step e)

end Sound

end Traffic

end Outbox.Memory
