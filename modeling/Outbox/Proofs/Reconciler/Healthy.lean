import Outbox.Proofs.Reconciler.FailedTick

/-!
# A tick with nothing in its way

With the store and the index up, and nothing rejected, a tick does its work and commits.  What it
leaves behind is said part by part: the queue after it depends on the queue alone (`settled`), and
the index after it holds the document of every entity that was to be indexed, and what it held
before of the others.

* `exec_tick_of_accepted` — the report of a tick of which nothing is rejected, and the world after it;
* `stored?_reindexed` — what the index holds then;
* `count_obsolete_add` — the tasks that name an entity, divided up by how the entity was judged.
-/

namespace Outbox.Reconciler

open Outbox.Memory Outbox.Simulation

/-! ### Counting -/

/-- **Each task counts once.**  An entity is obsolete, already consistent or to be indexed. -/
theorem count_obsolete_add (refs : List (TaskId × EntityId)) (verdict : EntityId → Disposition) :
    count refs verdict .obsolete + (count refs verdict .alreadyConsistent
      + count refs verdict .needsIndex) = refs.length := by
  induction refs with
  | nil => rfl
  | cons r refs ih =>
      simp only [count, List.countP_cons, List.length_cons] at ih ⊢
      cases verdict r.2 with
      | obsolete => simp; omega
      | needsIndex => simp; omega
      | alreadyConsistent => simp; omega

/-! ### The parts of the world afterwards -/

/-- Nothing stands in the way of a tick. -/
structure Healthy (w : World Index) : Prop where
  store : w.store.available = true
  index : w.index.available = true
  accepting : w.index.rejected = []

/-- A claim on a queue, with everything that a tick asks for under it. -/
def finished (registry : Registry) (limit : Int) (q : Queue) : Claim :=
  let c := (q.claimDue limit).1
  (c.setAside (malformed registry c.tasks)).delete ((references registry c.tasks).map Prod.fst)

/-- The queue after a tick that commits. -/
def settled (registry : Registry) (limit : Int) (q : Queue) : Queue :=
  (q.claimDue limit).2.commitClaim (finished registry limit q)

/-- The index after a tick that writes what it has to, which is no call where there is nothing. -/
def reindexed (enrich : Transform) (registry : Registry) (tasks : List Task) (w : World Index) :
    Index :=
  if todo registry tasks w = [] then w.index else (indexed enrich registry tasks w).index

variable {enrich : Transform} {registry : Registry} {limit : Int} {tasks : List Task}
  {w : World Index}

theorem Healthy.notMem_rejected (h : Healthy w) (i : EntityId) : i ∉ w.index.rejected := by
  rw [h.accepting]
  exact List.not_mem_nil

/-- Store and index are up, and nothing is rejected of what a tick has to write. -/
structure Accepted (registry : Registry) (limit : Int) (w : World Index) : Prop where
  store : w.store.available = true
  index : w.index.available = true
  accepted : ∀ i ∈ todo registry (claim limit w).tasks w, i ∉ w.index.rejected

theorem Healthy.accepted (h : Healthy w) (registry : Registry) (limit : Int) :
    Accepted registry limit w :=
  ⟨h.store, h.index, fun i _ => h.notMem_rejected i⟩

/-- **A tick of which nothing is rejected.**  Its report, and the world after it. -/
theorem exec_tick_of_accepted (enrich : Transform) (h : Accepted registry limit w) :
    (Setup.inMemory enrich registry limit).reconciler.tick.exec w
      = if (claim limit w).tasks = [] then (.ok .idle, w)
        else
          (.ok (report registry (claim limit w).tasks (verdict registry (claim limit w).tasks w)),
            { w with
              queue := settled registry limit w.queue
              index := reindexed enrich registry (claim limit w).tasks w }) := by
  have hanswer : w.index.verdict
      ((documents enrich registry (claim limit w).tasks w).map Document.id) = .ok () :=
    Index.verdict_eq_ok_iff.mpr fun i hi => h.accepted i (mem_documents_ids.mp hi)
  rw [exec_tick]
  split
  · rfl
  · have hresolve : ((Setup.inMemory enrich registry limit).reconciler.resolve (claim limit w)
        (claim limit w).tasks).exec (claiming limit w)
        = (.ok (resolved registry (claim limit w) (claim limit w).tasks w),
          { claiming limit w with index := reindexed enrich registry (claim limit w).tasks w }) := by
      rw [exec_resolve_claiming enrich registry h.store h.index]
      by_cases htodo : todo registry (claim limit w).tasks w = []
      · rw [if_pos htodo, reindexed, if_pos htodo]
        rfl
      · rw [if_neg htodo, reindexed, if_neg htodo, hanswer]
        rfl
    rw [hresolve]
    rfl

/-- **A tick with nothing in its way.** -/
theorem exec_tick_of_healthy (enrich : Transform) (registry : Registry) (limit : Int)
    (h : Healthy w) :
    (Setup.inMemory enrich registry limit).reconciler.tick.exec w
      = if (claim limit w).tasks = [] then (.ok .idle, w)
        else
          (.ok (report registry (claim limit w).tasks (verdict registry (claim limit w).tasks w)),
            { w with
              queue := settled registry limit w.queue
              index := reindexed enrich registry (claim limit w).tasks w }) :=
  exec_tick_of_accepted enrich (h.accepted registry limit)

/-- **The index afterwards.**  An entity that was to be indexed has its document, unless it is
rejected. -/
theorem stored?_reindexed (enrich : Transform) {i : EntityId} (hi : i ∈ todo registry tasks w)
    (hrej : i ∉ w.index.rejected) :
    ∃ entity, w.store.live? i = some entity ∧ (reindexed enrich registry tasks w).stored? i
      = some (.live (Indexer.document enrich entity)) := by
  rw [reindexed, if_neg (List.ne_nil_of_mem hi)]
  exact stored?_indexed enrich hi hrej

theorem stored?_reindexed_of_notMem {i : EntityId}
    (hi : i ∈ w.index.rejected ∨ i ∉ todo registry tasks w) :
    (reindexed enrich registry tasks w).stored? i = w.index.stored? i := by
  rw [reindexed]
  split
  · rfl
  · exact stored?_indexed_of_notMem hi

theorem available_reindexed :
    (reindexed enrich registry tasks w).available = w.index.available := by
  rw [reindexed]
  split
  · rfl
  · rfl

theorem rejected_reindexed : (reindexed enrich registry tasks w).rejected = w.index.rejected := by
  rw [reindexed]
  split
  · rfl
  · rfl

/-- A tick writes tombstones for nobody. -/
theorem tombstones_reindexed :
    (reindexed enrich registry tasks w).tombstones = w.index.tombstones := by
  rw [reindexed]
  split
  · rfl
  · rfl

/-- What a tick writes is one call, for exactly the entities that were to be indexed. -/
theorem upserts_reindexed (enrich : Transform) (registry : Registry) (tasks : List Task)
    (w : World Index) :
    ∃ calls, (reindexed enrich registry tasks w).upserts = w.index.upserts ++ calls ∧
      ∀ ids ∈ calls, ∀ i, i ∈ ids ↔ i ∈ todo registry tasks w := by
  rw [reindexed]
  split
  · exact ⟨[], (List.append_nil _).symm, fun _ h => absurd h List.not_mem_nil⟩
  · refine ⟨[(documents enrich registry tasks w).map Document.id], rfl, fun ids hids i => ?_⟩
    rw [List.mem_singleton.mp hids, mem_documents_ids]

end Outbox.Reconciler
