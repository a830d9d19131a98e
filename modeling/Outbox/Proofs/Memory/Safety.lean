import Outbox.Proofs.Memory.Sound

/-!
# Safety of the queue

Whatever producers and consumers do on one queue, and in whatever order, no task is lost, none is
held twice, and none is seen too early.

* `Waiting`, `RemovedBy` — the two fates of a committed task;
* `safe_run` — who holds what, what is hidden, what became of every committed task, and what a claim
  leaves behind that does not commit.
-/

namespace Outbox.Memory

open Outbox.Time

/-! ### Lists in which one element answers -/

/-- If no two elements of a list answer, then one that answers is all that a filter leaves. -/
theorem filter_eq_singleton {α : Type} {p : α → Bool} {a : α} {l : List α}
    (h : l.Pairwise fun a b => ¬(p a = true ∧ p b = true)) (ha : a ∈ l) (hpa : p a = true) :
    l.filter p = [a] := by
  induction l with
  | nil => cases ha
  | cons b l ih =>
      obtain ⟨hb, hl⟩ := List.pairwise_cons.mp h
      rcases List.mem_cons.mp ha with rfl | ha
      · rw [List.filter_cons_of_pos hpa, List.filter_eq_nil_iff.mpr]
        exact fun c hc hpc => hb c hc ⟨hpa, hpc⟩
      · rw [List.filter_cons_of_neg fun hpb => hb a ha ⟨hpb, hpa⟩]
        exact ih hl ha

/-- An element is alone with its key where keys are not repeated. -/
theorem filter_key_eq_singleton {α β : Type} [DecidableEq β] {f : α → β} {a : α} {l : List α}
    (h : (l.map f).Nodup) (ha : a ∈ l) : l.filter (fun b => f b = f a) = [a] := by
  refine filter_eq_singleton ?_ ha (decide_eq_true rfl)
  refine (List.pairwise_map.mp h).imp fun hne heq => hne ?_
  rw [of_decide_eq_true heq.1, of_decide_eq_true heq.2]

namespace Traffic

variable {ι κ : Type} {s : Traffic ι κ}

/-! ### What became of a task -/

/-- A committed task that is still there, once and unchanged. -/
structure Waiting (s : Traffic ι κ) (t : Task) : Prop where
  once : s.queue.tasks.filter (fun t' => t'.id = t.id) = [t]
  not_deleted : ∀ c ∈ s.settled, t.id ∉ c.deleted
  not_dead : t.id ∉ s.queue.deadLetters.map fun d => d.task.id

/-- A committed task that the commit of one claim removed, which held it. -/
structure RemovedBy (s : Traffic ι κ) (t : Task) (c : Claim) : Prop where
  gone : t.id ∉ s.queue.tasks.map Task.id
  only : s.settled.filter (fun d => t.id ∈ d.deleted) = [c]
  held : t ∈ c.tasks
  /-- Its dead letter is there once, with its reason. -/
  dead : ∀ reason, ⟨t, reason⟩ ∈ c.quarantined →
    s.queue.deadLetters.filter (fun d => d.task.id = t.id) = [⟨t, reason⟩]
  not_dead : (∀ reason, ⟨t, reason⟩ ∉ c.quarantined) →
    t.id ∉ s.queue.deadLetters.map fun d => d.task.id

namespace Sound

theorem id_notMem_tasks (h : s.Sound) {t : Task} (ht : t.id ∉ s.committed.map Task.id) :
    t.id ∉ s.queue.tasks.map Task.id := by
  intro hmem
  obtain ⟨t', ht', hid⟩ := List.mem_map.mp hmem
  exact ht (hid ▸ List.mem_map_of_mem (h.mem_committed ht'))

/-- A dead letter comes from a committed claim, which held and deleted its task. -/
theorem exists_settled_of_deadLetter (h : s.Sound) {d : DeadLetter} (hd : d ∈ s.queue.deadLetters) :
    ∃ c ∈ s.settled, d ∈ c.quarantined ∧ d.task ∈ s.committed ∧ d.task.id ∈ c.deleted := by
  rw [h.deadLetters_eq] at hd
  obtain ⟨c, hc, hdc⟩ := List.mem_flatMap.mp hd
  have hproper := h.settled_proper c hc
  exact ⟨c, hc, hdc, h.settled_held c hc _ (hproper.quarantines_own d hdc),
    hproper.quarantined_deleted d hdc⟩

theorem waiting (h : s.Sound) {t : Task} (ht : t ∈ s.queue.tasks) : s.Waiting t :=
  ⟨filter_key_eq_singleton h.fits.nodup ht, fun _ => h.notMem_deleted ht, h.notMem_of_deadLetter ht⟩

theorem removedBy (h : s.Sound) {t : Task} (ht : t ∈ s.committed) {c : Claim} (hc : c ∈ s.settled)
    (hdel : t.id ∈ c.deleted) : s.RemovedBy t c := by
  have honly : s.settled.filter (fun d => t.id ∈ d.deleted) = [c] := by
    refine filter_eq_singleton (h.settled_apart.imp fun hne heq => ?_) hc (decide_eq_true hdel)
    exact hne t.id (of_decide_eq_true heq.1) (of_decide_eq_true heq.2)
  have heq_of_id : ∀ t' ∈ s.committed, t'.id = t.id → t' = t := fun t' ht' hid =>
    List.inj_on_of_nodup_map h.committed_nodup ht' ht hid
  refine ⟨?_, honly, ?_, ?_, ?_⟩
  · intro hmem
    obtain ⟨t', ht', hid⟩ := List.mem_map.mp hmem
    exact h.notMem_deleted ht' hc (hid ▸ hdel)
  · obtain ⟨t', ht', hid⟩ := List.mem_map.mp ((h.settled_proper c hc).deletes_own _ hdel)
    rwa [heq_of_id t' (h.settled_held c hc t' ht') hid] at ht'
  · intro reason hq
    refine filter_key_eq_singleton h.deadLetters_nodup (a := ⟨t, reason⟩) ?_
    rw [h.deadLetters_eq]
    exact List.mem_flatMap_of_mem hc hq
  · intro hnone hmem
    obtain ⟨⟨t', reason⟩, hd, hid⟩ := List.mem_map.mp hmem
    obtain ⟨c', hc', hq, hcom, hdel'⟩ := h.exists_settled_of_deadLetter hd
    have hcc : c' ∈ s.settled.filter (fun d => t.id ∈ d.deleted) :=
      List.mem_filter.mpr ⟨hc', decide_eq_true (hid ▸ hdel')⟩
    rw [honly, List.mem_singleton] at hcc
    obtain rfl : t' = t := heq_of_id t' hcom hid
    exact hnone reason (hcc ▸ hq)

theorem uncommitted_hidden (h : s.Sound) {t : Task} (ht : s.Uncommitted t) :
    t.id ∉ s.queue.tasks.map Task.id ∧ (∀ k c, s.claims k = some c → t.id ∉ c.ids) ∧
      t.id ∉ s.queue.deadLetters.map fun d => d.task.id := by
  have hnot := h.uncommitted_apart t ht
  refine ⟨h.id_notMem_tasks hnot, ?_, ?_⟩
  · intro k c hc
    exact notMem_ids_of_held hnot fun t' ht' => h.mem_committed (h.fits.held k c hc t' ht')
  · intro hmem
    obtain ⟨d, hd, hid⟩ := List.mem_map.mp hmem
    obtain ⟨_, _, _, hcom, _⟩ := h.exists_settled_of_deadLetter hd
    exact hnot (hid ▸ List.mem_map_of_mem hcom)

theorem committed_fate (h : s.Sound) {t : Task} (ht : t ∈ s.committed) :
    s.Waiting t ∨ ∃ c, s.RemovedBy t c := by
  by_cases hall : ∀ c ∈ s.settled, t.id ∉ c.deleted
  · refine .inl (h.waiting ?_)
    rw [h.tasks_eq]
    exact List.mem_filter.mpr ⟨ht, decide_eq_true hall⟩
  · push Not at hall
    obtain ⟨c, hc, hdel⟩ := hall
    exact .inr ⟨c, h.removedBy ht hc hdel⟩

end Sound

/-! ### Safety -/

variable [DecidableEq ι] [DecidableEq κ]

/-- What can be relied on in a state. -/
structure Safe (s : Traffic ι κ) : Prop where
  /-- No two claims hold one task. -/
  claims_apart : ∀ k k' c c', s.claims k = some c → s.claims k' = some c' → k ≠ k' →
    ∀ i ∈ c.ids, i ∉ c'.ids
  /-- Exactly what claims hold is locked. -/
  locked_iff : ∀ i, i ∈ s.queue.locked ↔ ∃ k c, s.claims k = some c ∧ i ∈ c.ids
  /-- What a transaction stages are the tasks that were enqueued in it, as they were enqueued. -/
  staged : ∀ tx u, s.transactions tx = some u → u.staged = s.enqueued tx
  /-- Nobody sees a task that was not committed. -/
  uncommitted_hidden : ∀ t, s.Uncommitted t → t.id ∉ s.queue.tasks.map Task.id ∧
    (∀ k c, s.claims k = some c → t.id ∉ c.ids) ∧
    t.id ∉ s.queue.deadLetters.map fun d => d.task.id
  /-- No committed task is lost. -/
  committed_fate : ∀ t ∈ s.committed, s.Waiting t ∨ ∃ c, s.RemovedBy t c
  /-- A task leaves the queue with the commit of a claim that holds it. -/
  leaves : ∀ e t, t ∈ s.queue.tasks → t ∉ (s.step e).queue.tasks →
    ∃ k c, e = .commitClaim k ∧ s.claims k = some c ∧ t ∈ c.tasks ∧ t.id ∈ c.deleted
  /-- A claim that does not commit takes its locks with it and nothing else. -/
  released : ∀ k c, s.claims k = some c → ∀ e, e = .rollback k ∨ e = .dropClaim k →
    (s.step e).queue.tasks = s.queue.tasks ∧
    (s.step e).queue.deadLetters = s.queue.deadLetters ∧
    (∀ i, i ∈ (s.step e).queue.locked ↔ i ∈ s.queue.locked ∧ i ∉ c.ids) ∧
    (s.step e).claims = Function.update s.claims k none

namespace Sound

theorem leaves (h : s.Sound) {e : Event ι κ} {t : Task} (ht : t ∈ s.queue.tasks)
    (hgone : t ∉ (s.step e).queue.tasks) :
    ∃ k c, e = .commitClaim k ∧ s.claims k = some c ∧ t ∈ c.tasks ∧ t.id ∈ c.deleted := by
  cases e with
  | commitClaim k =>
      rw [Traffic.step, Traffic.commitClaim] at hgone
      split at hgone
      · rename_i c hc
        have hdel : t.id ∈ c.deleted := by
          by_contra hnot
          exact hgone (Queue.mem_commitClaim.mpr ⟨ht, hnot⟩)
        obtain ⟨t', ht', hid⟩ := List.mem_map.mp ((h.open_proper k c hc).deletes_own _ hdel)
        obtain rfl := h.fits.eq_of_id (h.fits.held k c hc t' ht') ht hid
        exact ⟨k, c, rfl, hc, ht', hdel⟩
      · exact absurd ht hgone
  | commitTransaction tx =>
      rw [Traffic.step, Traffic.commitTransaction] at hgone
      split at hgone
      · exact absurd (List.mem_append_left _ ht) hgone
      · exact absurd ht hgone
  | advance nanos => exact absurd ht hgone
  | _ =>
      -- every other event leaves the tasks alone
      refine absurd ?_ hgone
      simp only [Traffic.step, Traffic.begin, Traffic.stage, Traffic.dropTransaction,
        Traffic.claimDue, Traffic.delete, Traffic.quarantine, Traffic.release]
      split <;> (try split) <;> exact ht

theorem released (s : Traffic ι κ) {k : κ} {c : Claim} (hc : s.claims k = some c) {e : Event ι κ}
    (he : e = .rollback k ∨ e = .dropClaim k) :
    (s.step e).queue.tasks = s.queue.tasks ∧
      (s.step e).queue.deadLetters = s.queue.deadLetters ∧
      (∀ i, i ∈ (s.step e).queue.locked ↔ i ∈ s.queue.locked ∧ i ∉ c.ids) ∧
      (s.step e).claims = Function.update s.claims k none := by
  have hstep : s.step e =
      { s with queue := s.queue.release c, claims := Function.update s.claims k none } := by
    have hrelease : s.step e = s.release k := by
      rcases he with rfl | rfl
      · rfl
      · rfl
    rw [hrelease, Traffic.release, hc]
  rw [hstep]
  exact ⟨rfl, rfl, fun i => Queue.mem_locked_release, rfl⟩

theorem safe (h : s.Sound) : s.Safe where
  claims_apart := h.fits.disjoint
  locked_iff := h.fits.locked_iff
  staged := h.staged_eq
  uncommitted_hidden _ := h.uncommitted_hidden
  committed_fate _ := h.committed_fate
  leaves _ _ := h.leaves
  released _ _ hc _ := released s hc

end Sound

/-- **Safety of the queue.**  However the transactions of producers, the claims of consumers and the
moves of the clock are interleaved, every state that is reached is safe. -/
theorem safe_run (now : Timestamp) (es : List (Event ι κ)) : ((start now).run es).Safe :=
  ((sound_start now).run es).safe

end Traffic

end Outbox.Memory
