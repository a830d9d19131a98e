import Outbox.Enrichment
import Outbox.Proofs.Reconciler.Tick

/-!
# A tick that fails

A tick that fails leaves the queue as it found it: its claim goes, with everything that was asked
for under it, so the same tasks can be claimed again.  What it wrote to the index stays written, and
that is no harm: it is nothing but what the next tick would write as well.

* `tick_error` — where a tick can fail, and what it has done by then;
* `exec_tick_of_refused` — a tick fails if anything is rejected that it has to write;
* `failedTick` — what a failed tick leaves behind.
-/

namespace Outbox.Reconciler

open Outbox.Memory Outbox.Simulation

variable {enrich : Transform} {registry : Registry} {limit : Int} {w w' : World Index} {e : Error}

/-! ### Where a tick fails -/

/-- The work on a claim fails with the store or with the index, before anything was done, or because
the index rejects documents, after the others were written. -/
theorem resolve_error {c : Claim} {tasks : List Task}
    (h : ((Setup.inMemory enrich registry limit).reconciler.resolve c tasks).exec w
      = (.error e, w')) :
    ((∀ failed, e ≠ .partialBatchFailure failed) ∧ w' = w) ∨
      (w.index.verdict ((documents enrich registry tasks w).map Document.id) = .error e ∧
        w' = indexed enrich registry tasks w) := by
  rw [exec_resolve] at h
  split at h
  · cases h
    exact .inl ⟨nofun, rfl⟩
  · split at h
    · cases h
      exact .inl ⟨nofun, rfl⟩
    · split at h
      · cases h
      · cases hanswer : w.index.verdict ((documents enrich registry tasks w).map Document.id) with
        | ok u =>
            rw [hanswer] at h
            cases h
        | error e' =>
            rw [hanswer] at h
            cases h
            exact .inr ⟨rfl, rfl⟩

/-- **Where a tick fails.**  Whatever it was, the claim is given back. -/
theorem tick_error
    (h : (Setup.inMemory enrich registry limit).reconciler.tick.exec w = (.error e, w')) :
    ((∀ failed, e ≠ .partialBatchFailure failed) ∧ w' = w) ∨
      (w.index.verdict ((documents enrich registry (claim limit w).tasks w).map Document.id)
          = .error e ∧
        w' = indexed enrich registry (claim limit w).tasks w) := by
  rw [exec_tick] at h
  split at h
  · cases h
  · split at h
    · cases h
    · rename_i e' w'' hresolve
      cases h
      have hback : (claiming limit w).queue.release (claim limit w) = w.queue :=
        Queue.release_claimDue w.queue limit
      rcases resolve_error hresolve with ⟨hcause, rfl⟩ | ⟨hanswer, rfl⟩
      · refine .inl ⟨hcause, ?_⟩
        rw [hback]
        rfl
      · refine .inr ⟨hanswer, ?_⟩
        show { indexed enrich registry _ (claiming limit w) with
          queue := (claiming limit w).queue.release (claim limit w) } = _
        rw [hback]
        rfl

/-- **A tick of which something is rejected** fails, and has written what was not. -/
theorem exec_tick_of_refused (hstore : w.store.available = true) (hindex : w.index.available = true)
    (hanswer : w.index.verdict
      ((documents enrich registry (claim limit w).tasks w).map Document.id) = .error e) :
    (Setup.inMemory enrich registry limit).reconciler.tick.exec w
      = (.error e, indexed enrich registry (claim limit w).tasks w) := by
  have htodo : todo registry (claim limit w).tasks w ≠ [] := by
    intro hnone
    have hok : w.index.verdict
        ((documents enrich registry (claim limit w).tasks w).map Document.id) = .ok () := by
      refine Index.verdict_eq_ok_iff.mpr fun i hi => ?_
      have hmem := mem_documents_ids.mp hi
      rw [hnone] at hmem
      cases hmem
    rw [hanswer] at hok
    cases hok
  have hclaim : (claim limit w).tasks ≠ [] := by
    intro hnone
    rw [hnone] at htodo
    exact htodo rfl
  rw [exec_tick, if_neg hclaim, exec_resolve_claiming enrich registry hstore hindex, if_neg htodo,
    hanswer]
  show (Except.error e, { indexed enrich registry _ w with
    queue := (w.queue.claimDue limit).2.release (w.queue.claimDue limit).1 }) = _
  rw [Queue.release_claimDue]
  rfl

/-! ### What it leaves behind -/

/-- What is left of a tick that failed with `e`, from the world before to the world after. -/
structure Failed (enrich : Transform) (registry : Registry) (limit : Int) (w : World Index)
    (e : Error) (w' : World Index) : Prop where
  /-- Nothing but the index is touched. -/
  frame : w' = { w with index := w'.index }
  tasks : w'.queue.tasks = w.queue.tasks
  deadLetters : w'.queue.deadLetters = w.queue.deadLetters
  locked : w'.queue.locked = w.queue.locked
  /-- The same tasks can be claimed again. -/
  again : claim limit w' = claim limit w
  /-- A document that differs is that of an entity to index, as it is now. -/
  changed : ∀ i, w'.index.stored? i ≠ w.index.stored? i →
    i ∈ todo registry (claim limit w).tasks w ∧
      ∃ entity, w.store.entity? i = some entity ∧
        w'.index.stored? i = some (.live (Indexer.document enrich entity))
  /-- After a rejection the documents differ that were not rejected. -/
  accepted : ∀ failed, e = .partialBatchFailure failed →
    ∀ i ∈ todo registry (claim limit w).tasks w, i ∉ w.index.rejected →
      w'.index.stored? i ≠ w.index.stored? i
  /-- The error names what was rejected. -/
  blamed : ∀ failed, e = .partialBatchFailure failed →
    ∀ i, i ∈ failed ↔ i ∈ todo registry (claim limit w).tasks w ∧ i ∈ w.index.rejected
  /-- After any other error no document differs. -/
  unwritten : (∀ failed, e ≠ .partialBatchFailure failed) → w'.index = w.index

/-- What an identifier to index holds once the documents of a tick are written. -/
theorem stored?_indexed (enrich : Transform) {tasks : List Task} {i : EntityId}
    (hi : i ∈ todo registry tasks w) (hrej : i ∉ w.index.rejected) :
    ∃ entity, w.store.live? i = some entity ∧ (indexed enrich registry tasks w).index.stored? i
      = some (.live (Indexer.document enrich entity)) := by
  have hmem : i ∈ (documents enrich registry tasks w).map Document.id := mem_documents_ids.mpr hi
  obtain ⟨d, hd, hid, hstored⟩ := Index.stored?_afterUpsert_of_mem hrej hmem
  obtain ⟨j, -, entity, hlive, rfl⟩ := mem_documents.mp hd
  have hj : j = i := (Store.id_of_live? hlive).symm.trans hid
  exact ⟨entity, hj ▸ hlive, hstored⟩

theorem stored?_indexed_of_notMem {tasks : List Task} {i : EntityId}
    (hi : i ∈ w.index.rejected ∨ i ∉ todo registry tasks w) :
    (indexed enrich registry tasks w).index.stored? i = w.index.stored? i := by
  refine Index.stored?_afterUpsert_of_notMem (hi.imp_right fun hnot hmem => hnot ?_)
  exact mem_documents_ids.mp hmem

/-- Writing the documents of a tick changes what it is for: the version was another one before. -/
theorem stored?_indexed_ne {tasks : List Task} {i : EntityId} (hi : i ∈ todo registry tasks w)
    (hrej : i ∉ w.index.rejected) :
    (indexed enrich registry tasks w).index.stored? i ≠ w.index.stored? i := by
  obtain ⟨entity, hlive, hstored⟩ := stored?_indexed enrich hi hrej
  obtain ⟨-, entity', hlive', hversion⟩ := mem_todo.mp hi
  rw [hlive] at hlive'
  cases hlive'
  intro heq
  exact hversion ⟨_, heq ▸ hstored, rfl⟩

/-- **A failed tick is atomic.**  Of all it did, only documents remain that were to be written. -/
theorem failedTick
    (h : (Setup.inMemory enrich registry limit).reconciler.tick.exec w = (.error e, w')) :
    Failed enrich registry limit w e w' := by
  rcases tick_error h with ⟨hcause, rfl⟩ | ⟨hanswer, rfl⟩
  · exact ⟨rfl, rfl, rfl, rfl, rfl, fun i hne => absurd rfl hne,
      fun failed he => absurd he (hcause failed), fun failed he => absurd he (hcause failed),
      fun _ => rfl⟩
  · rw [Index.verdict] at hanswer
    split at hanswer
    · cases hanswer
    · rename_i hrefused
      cases hanswer
      constructor
      case frame => rfl
      case tasks => rfl
      case deadLetters => rfl
      case locked => rfl
      case again => rfl
      case changed =>
        intro i hne
        -- elsewhere nothing was written
        have hi : i ∉ w.index.rejected ∧ i ∈ todo registry (claim limit w).tasks w := by
          by_contra hnot
          refine hne (stored?_indexed_of_notMem ?_)
          rwa [not_and_or, not_not] at hnot
        obtain ⟨entity, hlive, hstored⟩ := stored?_indexed enrich hi.2 hi.1
        exact ⟨hi.2, entity, (Store.live?_eq_some.mp hlive).1, hstored⟩
      case accepted =>
        intro failed _ i hi hrej
        exact stored?_indexed_ne hi hrej
      case blamed =>
        intro failed he i
        cases he
        rw [Index.refused, List.mem_filter, mem_documents_ids, decide_eq_true_eq]
      case unwritten => exact fun hcause => absurd rfl (hcause _)

/-- Two live entities, of which the index rejects the first, a task for each of them, and a task
that cannot be read. -/
def rejecting : World Index :=
  let queue := ((Queue.empty ⟨0, 0⟩).enqueue ⟨.ofNat 11⟩ ⟨.ofNat 1⟩ syncEntityTag none).enqueue
    ⟨.ofNat 12⟩ ⟨.ofNat 2⟩ syncEntityTag none
  let unreadable := Transaction.empty.stageRaw ⟨0, 0⟩ ⟨.ofNat 13⟩ syncEntityTag .null none
  { World.start ⟨0, 0⟩ (Index.empty.reject ⟨.ofNat 1⟩) with
    queue := (queue.commitProducer unreadable).advance moment
    store := (Store.empty.putLive ⟨.ofNat 1⟩ ⟨7, 0⟩ .null).putLive ⟨.ofNat 2⟩ ⟨8, 0⟩ .null }

/-- All of its tasks are due, in the order in which they are. -/
theorem due_rejecting : rejecting.queue.due = rejecting.queue.tasks := by
  rw [Queue.due, List.filter_eq_self.mpr (by decide +kernel)]
  exact List.mergeSort_of_pairwise (by decide +kernel)

theorem claim_rejecting : claim 10 rejecting = ⟨rejecting.queue.tasks, [], []⟩ := by
  rw [claim, Queue.claimDue, due_rejecting]
  rfl

theorem failedTick_rejecting :
    let setup := Setup.inMemory Enrichment.textLength Registry.standard 10
    let r := setup.reconciler.tick.exec rejecting
    r.1 = .error (.partialBatchFailure [⟨.ofNat 1⟩]) ∧
      Failed Enrichment.textLength Registry.standard 10 rejecting
        (.partialBatchFailure [⟨.ofNat 1⟩]) r.2 := by
  have herr : ((Setup.inMemory Enrichment.textLength Registry.standard 10).reconciler.tick.exec
      rejecting).1 = .error (.partialBatchFailure [⟨.ofNat 1⟩]) := by
    rw [exec_tick, claim_rejecting]
    decide +kernel
  exact ⟨herr, failedTick (Prod.ext herr rfl)⟩

end Outbox.Reconciler
