import Outbox.Proofs.Disposition
import Outbox.Proofs.Reconciler.References
import Outbox.Proofs.Simulation.Services

/-!
# A tick in memory

What one tick does when queue, store and index are in memory.

* `mem_todo` — it indexes the live entities that claimed tasks name and whose version the index does
  not hold;
* `exec_resolve` — what the work on a claim comes to, and what it leaves behind;
* `exec_tick` — a tick works on what it claims, and then commits the claim or gives it back.
-/

namespace Outbox.Reconciler

open Outbox.Memory Outbox.Simulation

/-! ### What is judged and planned -/

variable (registry : Registry) (tasks : List Task) (w : World Index)

/-- How a tick judges entities. -/
def verdict : EntityId → Disposition :=
  let ids := referenced (references registry tasks)
  classify (w.store.statuses ids) (w.index.statuses ids)

/-- What a tick indexes. -/
def todo : List EntityId := stale (references registry tasks) (verdict registry tasks w)

variable {registry tasks w}

/-- **To be indexed.**  A task names the entity, it is live, and the index does not hold its
version. -/
theorem mem_todo {i : EntityId} :
    i ∈ todo registry tasks w ↔ (∃ t ∈ tasks, Names registry t i) ∧
      ∃ e, w.store.live? i = some e ∧ ¬w.index.HasVersion i e.updated := by
  rw [todo, mem_stale]
  refine and_congr_right fun hnamed => ?_
  rw [verdict, classify_statuses (mem_referenced.mpr hnamed), compareStatus_eq_needsIndex]

/-- What a tick writes to the index. -/
def documents (enrich : Transform) (registry : Registry) (tasks : List Task) (w : World Index) :
    List Document :=
  let ids := distinct (todo registry tasks w)
  (Indexer.plan enrich ids (w.store.fetch ids)).documents

theorem mem_documents {enrich : Transform} {d : Document} :
    d ∈ documents enrich registry tasks w ↔
      ∃ i ∈ todo registry tasks w, ∃ e,
        w.store.live? i = some e ∧ d = Indexer.document enrich e := by
  simp only [documents, Indexer.mem_documents, mem_distinct]

theorem mem_documents_ids {enrich : Transform} {i : EntityId} :
    i ∈ (documents enrich registry tasks w).map Document.id ↔ i ∈ todo registry tasks w := by
  rw [documents, Indexer.mem_documents_ids, mem_distinct]
  refine and_iff_left_of_imp fun hi => ?_
  obtain ⟨-, e, he, -⟩ := mem_todo.mp hi
  rw [he]
  rfl

theorem documents_ne_nil {enrich : Transform} (h : todo registry tasks w ≠ []) :
    documents enrich registry tasks w ≠ [] := by
  intro hnil
  obtain ⟨i, hi⟩ := List.exists_mem_of_ne_nil _ h
  have hmem : i ∈ (documents enrich registry tasks w).map Document.id := mem_documents_ids.mpr hi
  rw [hnil] at hmem
  cases hmem

/-- What is indexed is live, so a tick plans no tombstones. -/
theorem tombstoned_eq_nil (enrich : Transform) :
    (Indexer.plan enrich (distinct (todo registry tasks w))
      (w.store.fetch (distinct (todo registry tasks w)))).tombstoned = [] := by
  refine List.eq_nil_iff_forall_not_mem.mpr fun i hi => ?_
  obtain ⟨hi, hnone⟩ := Indexer.mem_tombstoned.mp hi
  obtain ⟨-, e, he, -⟩ := mem_todo.mp (mem_distinct.mp hi)
  rw [hnone] at he
  cases he

/-! ### The work on a claim -/

variable {enrich : Transform} {limit : Int}

/-- The world after the documents of a tick were written. -/
def indexed (enrich : Transform) (registry : Registry) (tasks : List Task) (w : World Index) :
    World Index :=
  { w with index := w.index.afterUpsert (documents enrich registry tasks w) }

/-- **Indexing.**  It is one call that writes documents. -/
theorem exec_run (enrich : Transform) (limit : Int) (hstore : w.store.available = true)
    (hindex : w.index.available = true) (h : todo registry tasks w ≠ []) :
    ∃ outcome, (Indexer.run (Setup.inMemory enrich registry limit).reconciler.store
        (Setup.inMemory enrich registry limit).reconciler.index enrich
        (todo registry tasks w)).exec w
      = ((w.index.verdict ((documents enrich registry tasks w).map Document.id)).map
          fun _ => outcome,
        indexed enrich registry tasks w) := by
  have hne : (distinct (todo registry tasks w)).isEmpty = false := by
    obtain ⟨i, hi⟩ := List.exists_mem_of_ne_nil _ h
    rw [List.isEmpty_eq_false_iff]
    exact List.ne_nil_of_mem (mem_distinct.mpr hi)
  have hentities := exec_entities enrich registry limit w (distinct (todo registry tasks w))
  rw [World.read, if_pos hstore] at hentities
  have hwrite : (Indexer.write (Setup.inMemory enrich registry limit).reconciler.index
      (Indexer.plan enrich (distinct (todo registry tasks w))
        (w.store.fetch (distinct (todo registry tasks w))))).exec w
      = (w.index.verdict ((documents enrich registry tasks w).map Document.id),
        indexed enrich registry tasks w) := by
    rw [Indexer.exec_write_of_documents (documents_ne_nil h) (tombstoned_eq_nil enrich),
      exec_indexUpsert, if_pos hindex]
    rfl
  refine ⟨⟨(documents enrich registry tasks w).map Document.id, []⟩, ?_⟩
  rw [Indexer.run, hne]
  show (_ >>= _ : Action (World Index) _).exec w = _
  rw [Action.exec_bind_ok hentities]
  show (_ >>= _ : Action (World Index) _).exec w = _
  rw [Action.exec_bind, hwrite]
  cases w.index.verdict ((documents enrich registry tasks w).map Document.id) with
  | ok u =>
      show (Except.ok _, _) = _
      rw [tombstoned_eq_nil]
      rfl
  | error e => rfl

/-- What the work on a claim gives when nothing fails. -/
def resolved (registry : Registry) (c : Claim) (tasks : List Task) (w : World Index) :
    Claim × Report :=
  (c.setAside (malformed registry tasks), report registry tasks (verdict registry tasks w))

/-- **The work on a claim.**  It fails with the store, with the index, or when a document is
rejected, and only in the last case something has changed by then. -/
theorem exec_resolve (c : Claim) (tasks : List Task) (w : World Index) :
    ((Setup.inMemory enrich registry limit).reconciler.resolve c tasks).exec w
      = if w.store.available = false then (.error (.database .poolTimedOut), w)
        else if w.index.available = false then (.error Index.down, w)
        else if todo registry tasks w = [] then (.ok (resolved registry c tasks w), w)
        else ((w.index.verdict ((documents enrich registry tasks w).map Document.id)).map
            fun _ => resolved registry c tasks w, indexed enrich registry tasks w) := by
  have hprimary := exec_statuses enrich registry limit w (referenced (references registry tasks))
  have hheld := exec_indexStatuses enrich registry limit w (referenced (references registry tasks))
  rw [resolve, Action.exec_bind_ok (exec_setAside enrich registry limit w c _)]
  by_cases hstore : w.store.available = false
  · rw [if_pos hstore]
    rw [World.read, hstore] at hprimary
    exact Action.exec_bind_error hprimary _
  · rw [if_neg hstore]
    rw [Bool.not_eq_false] at hstore
    rw [World.read, if_pos hstore] at hprimary
    refine (Action.exec_bind_ok hprimary _).trans ?_
    by_cases hindex : w.index.available = false
    · rw [if_pos hindex]
      rw [hindex] at hheld
      exact Action.exec_bind_error hheld _
    · rw [if_neg hindex]
      rw [Bool.not_eq_false] at hindex
      rw [if_pos hindex] at hheld
      refine (Action.exec_bind_ok hheld _).trans ?_
      show (if !(todo registry tasks w).isEmpty then _ else _ : Action (World Index) _).exec w = _
      by_cases h : todo registry tasks w = []
      · rw [if_pos h, h]
        rfl
      · rw [if_neg h, List.isEmpty_eq_false_iff.mpr h]
        obtain ⟨outcome, hrun⟩ := exec_run enrich limit hstore hindex h
        cases hanswer : w.index.verdict ((documents enrich registry tasks w).map Document.id) with
        | ok u =>
            rw [hanswer] at hrun
            exact Action.exec_bind_ok hrun _
        | error e =>
            rw [hanswer] at hrun
            exact Action.exec_bind_error hrun _

/-! ### A whole tick -/

/-- What a tick claims. -/
def claim (limit : Int) (w : World Index) : Claim := (w.queue.claimDue limit).1

/-- The world while a tick works on its claim. -/
def claiming (limit : Int) (w : World Index) : World Index :=
  { w with queue := (w.queue.claimDue limit).2 }

/-- With store and index up the work on a claim depends on what the index answers to its documents; it
is the same on the queue as it was and as it stands under the claim. -/
theorem exec_resolve_claiming (enrich : Transform) (registry : Registry)
    (hstore : w.store.available = true) (hindex : w.index.available = true) :
    ((Setup.inMemory enrich registry limit).reconciler.resolve (claim limit w)
        (claim limit w).tasks).exec (claiming limit w)
      = if todo registry (claim limit w).tasks w = [] then
          (.ok (resolved registry (claim limit w) (claim limit w).tasks w), claiming limit w)
        else
          ((w.index.verdict ((documents enrich registry (claim limit w).tasks w).map Document.id)).map
            fun _ => resolved registry (claim limit w) (claim limit w).tasks w,
          { claiming limit w with
            index := (indexed enrich registry (claim limit w).tasks w).index }) := by
  rw [exec_resolve, if_neg (Bool.not_eq_false _ ▸ hstore), if_neg (Bool.not_eq_false _ ▸ hindex)]
  rfl

/-- **A tick.**  It works on what it claims, and then commits the claim or gives it back. -/
theorem exec_tick (w : World Index) :
    (Setup.inMemory enrich registry limit).reconciler.tick.exec w
      = if (claim limit w).tasks = [] then (.ok .idle, w)
        else
          match ((Setup.inMemory enrich registry limit).reconciler.resolve (claim limit w)
            (claim limit w).tasks).exec (claiming limit w) with
          | (.ok (c, report), w') =>
            let done := c.delete ((references registry (claim limit w).tasks).map Prod.fst)
            (.ok report, { w' with queue := w'.queue.commitClaim done })
          | (.error e, w') =>
            (.error e, { w' with queue := w'.queue.release (claim limit w) }) := by
  have hclaim : ((Setup.inMemory enrich registry limit).reconciler.queue.claimDue limit).exec w
      = (.ok (claim limit w), claiming limit w) := rfl
  refine (Action.exec_bind_ok hclaim _).trans ?_
  by_cases h : (claim limit w).tasks = []
  · rw [if_pos h]
    show (if (claim limit w).tasks.isEmpty then _ else _ : Action (World Index) _).exec _ = _
    rw [h]
    show (Except.ok Report.idle, { w with queue := (claiming limit w).queue.release _ }) = _
    rw [claiming, claim, Queue.release_claimDue]
  · rw [if_neg h]
    show (if (claim limit w).tasks.isEmpty then _ else _ : Action (World Index) _).exec _ = _
    rw [List.isEmpty_eq_false_iff.mpr h]
    show ((_ : Action (World Index) _).attempt >>= _ : Action (World Index) _).exec _ = _
    cases hresolve : ((Setup.inMemory enrich registry limit).reconciler.resolve (claim limit w)
        (claim limit w).tasks).exec (claiming limit w) with
    | mk r w' =>
        have hattempt := Action.exec_attempt
          ((Setup.inMemory enrich registry limit).reconciler.resolve (claim limit w)
            (claim limit w).tasks) (claiming limit w)
        rw [hresolve] at hattempt
        refine (Action.exec_bind_ok hattempt _).trans ?_
        cases r with
        | ok p => rfl
        | error e => rfl

end Outbox.Reconciler
