import Outbox.Proofs.Memory.Order
import Outbox.Proofs.Reconciler.Healthy

/-!
# What a tick comes to

A tick with nothing in its way is said here without the steps that it takes: by the tasks that it
claims, by how each of the entities they name stands in store and index, and by what differs
afterwards.

* `count_verdict`, `todo_eq` — the counts of a report and the list of entities to index, by how the
  entities that tasks name stand in store and index;
* `settled_eq` — the queue afterwards, in terms of the claimed tasks;
* `successful_tick` — all of it together.
-/

namespace Outbox.Reconciler

open Outbox.Memory Outbox.Simulation

variable {registry : Registry} {tasks : List Task}

/-! ### How entities stand -/

/-- How an entity stands: gone from the store, held by the index in its version, or neither. -/
def standing (w : World Index) (i : EntityId) : Disposition :=
  match w.store.live? i with
  | none => .obsolete
  | some e => if w.index.HasVersion i e.updated then .alreadyConsistent else .needsIndex

variable {w : World Index}

theorem standing_eq_obsolete {i : EntityId} :
    standing w i = .obsolete ↔ w.store.live? i = none := by
  rw [standing]
  cases w.store.live? i with
  | none => simp
  | some e =>
      dsimp only
      split
      · simp
      · simp

theorem standing_eq_needsIndex {i : EntityId} : standing w i = .needsIndex ↔
    ∃ e, w.store.live? i = some e ∧ ¬w.index.HasVersion i e.updated := by
  rw [standing]
  cases w.store.live? i with
  | none => simp
  | some e =>
      dsimp only
      split
      · simp [*]
      · simp [*]

/-- **A tick judges entities by how they stand.** -/
theorem verdict_eq_standing {i : EntityId} (h : i ∈ tasks.filterMap (named? registry)) :
    verdict registry tasks w i = standing w i := by
  have hnamed : i ∈ referenced (references registry tasks) := by
    rw [referenced, mem_distinct, references_entities]
    exact h
  have hobsolete : compareStatus ((w.store.entity? i).map Entity.status)
      ((w.index.stored? i).map Stored.status) = .obsolete ↔ w.store.live? i = none :=
    compareStatus_eq_obsolete
  have hneeds := compareStatus_eq_needsIndex (s := w.store) (x := w.index) (i := i)
  rw [← standing_eq_obsolete] at hobsolete
  rw [← standing_eq_needsIndex] at hneeds
  rw [verdict, classify_statuses hnamed]
  -- two of the three verdicts agree, and so the third does
  cases hs : standing w i with
  | obsolete => exact hobsolete.mpr hs
  | needsIndex => exact hneeds.mpr hs
  | alreadyConsistent =>
      cases hc : compareStatus ((w.store.entity? i).map Entity.status)
          ((w.index.stored? i).map Stored.status) with
      | obsolete => exact absurd (hobsolete.mp hc) (by simp [hs])
      | needsIndex => exact absurd (hneeds.mp hc) (by simp [hs])
      | alreadyConsistent => rfl

theorem count_verdict (d : Disposition) :
    count (references registry tasks) (verdict registry tasks w) d
      = tasks.countP fun t => (named? registry t).map (standing w) = some d := by
  rw [count_references]
  refine List.countP_congr fun t ht => ?_
  cases h : named? registry t with
  | none => rfl
  | some i =>
      have hi : i ∈ tasks.filterMap (named? registry) := List.mem_filterMap.mpr ⟨t, ht, h⟩
      rw [Option.map_some, Option.map_some, verdict_eq_standing hi]

/-- What a tick indexes, by how entities stand. -/
theorem todo_eq (registry : Registry) (tasks : List Task) (w : World Index) :
    todo registry tasks w
      = distinct ((tasks.filterMap (named? registry)).filter
          fun i => standing w i = .needsIndex) := by
  rw [todo, stale, references_entities]
  refine congrArg distinct (List.filter_congr fun i hi => ?_)
  rw [verdict_eq_standing hi]

/-- What is written is written once, in the order in which it was named. -/
theorem documents_ids (enrich : Transform) (registry : Registry) (tasks : List Task)
    (w : World Index) :
    (documents enrich registry tasks w).map Document.id = todo registry tasks w := by
  have hnodup : (todo registry tasks w).Nodup := by
    rw [todo_eq]
    exact nodup_distinct _
  rw [documents, Indexer.documents_ids, distinct_of_nodup hnodup, List.filter_eq_self]
  intro i hi
  obtain ⟨-, e, he, -⟩ := mem_todo.mp hi
  rw [he]
  rfl

theorem upserts_reindexed_eq (enrich : Transform) (registry : Registry) (tasks : List Task)
    (w : World Index) : (reindexed enrich registry tasks w).upserts
      = w.index.upserts ++ if todo registry tasks w = [] then [] else [todo registry tasks w] := by
  rw [reindexed]
  split
  · exact (List.append_nil _).symm
  · rw [← documents_ids enrich]
    rfl

/-! ### The queue afterwards -/

/-- What becomes of the tasks that cannot be read. -/
def setAsideOf (registry : Registry) (tasks : List Task) : List DeadLetter :=
  tasks.filterMap fun t => (fault? registry t).map (DeadLetter.mk t)

/-- Every claimed task is asked to go, and nothing else. -/
theorem mem_deleted_finished {limit : Int} {q : Queue} {i : TaskId} :
    i ∈ (finished registry limit q).deleted ↔ i ∈ (q.claimDue limit).1.tasks.map Task.id := by
  have hdeleted : (finished registry limit q).deleted
      = ((malformed registry (q.claimDue limit).1.tasks).map fun p => p.1.id)
        ++ ((references registry (q.claimDue limit).1.tasks).map Prod.fst).filter
            fun i => i ∈ (q.claimDue limit).1.tasks.map Task.id := by
    rw [finished, Claim.delete, Claim.deleted_setAside, Claim.tasks_setAside]
    rfl
  rw [hdeleted, List.mem_append, List.mem_filter, decide_eq_true_eq]
  constructor
  · intro h
    cases h with
    | inl h =>
        obtain ⟨p, hp, rfl⟩ := List.mem_map.mp h
        exact List.mem_map_of_mem (mem_malformed.mp hp).1
    | inr h => exact h.2
  · intro h
    obtain ⟨t, ht, rfl⟩ := List.mem_map.mp h
    cases names_or_malformed ht with
    | inl hnames =>
        obtain ⟨e, hnames⟩ := hnames
        have href : (t.id, e) ∈ references registry (q.claimDue limit).1.tasks :=
          mem_references.mpr ⟨t, ht, rfl, hnames⟩
        exact .inr ⟨List.mem_map.mpr ⟨(t.id, e), href, rfl⟩, h⟩
    | inr hbad =>
        obtain ⟨reason, hbad⟩ := hbad
        exact .inl (List.mem_map.mpr ⟨(t, reason), hbad, rfl⟩)

/-- **The queue after a tick.**  The claimed tasks are gone, those that cannot be read are with the
dead letters, and no lock is left. -/
theorem settled_eq (registry : Registry) (limit : Int) (q : Queue) :
    settled registry limit q
      = { q with
          tasks := q.tasks.filter fun t => t.id ∉ (q.claimDue limit).1.tasks.map Task.id
          deadLetters := q.deadLetters ++ setAsideOf registry (q.claimDue limit).1.tasks } := by
  have hlocked : (settled registry limit q).locked = q.locked := by
    have hback := congrArg Queue.locked (Queue.release_claimDue q limit)
    have htasks : (finished registry limit q).tasks = (q.claimDue limit).1.tasks := by
      rw [finished, Claim.delete, Claim.tasks_setAside]
    rw [settled, Queue.commitClaim, Queue.release, htasks]
    exact hback
  have htasks : (settled registry limit q).tasks
      = q.tasks.filter fun t => t.id ∉ (q.claimDue limit).1.tasks.map Task.id := by
    refine List.filter_congr fun t _ => ?_
    simp only [mem_deleted_finished]
  have hdead : (settled registry limit q).deadLetters
      = q.deadLetters ++ setAsideOf registry (q.claimDue limit).1.tasks := by
    show q.deadLetters ++ (finished registry limit q).quarantined = _
    rw [finished, Claim.delete, Claim.quarantined_setAside, malformed_eq, setAsideOf,
      List.map_filterMap]
    simp only [Option.map_map, Function.comp_def]
    rfl
  have hnow : (settled registry limit q).now = q.now := rfl
  rw [← hlocked, ← htasks, ← hdead, ← hnow]

/-! ### All of it together -/

variable {enrich : Transform} {limit : Int}

/-- **A tick of which nothing is rejected**, whether it finds a task or not. -/
theorem exec_tick_of_accepted' (enrich : Transform) (h : Accepted registry limit w) :
    (Setup.inMemory enrich registry limit).reconciler.tick.exec w
      = (.ok (report registry (claim limit w).tasks (verdict registry (claim limit w).tasks w)),
          { w with
            queue := settled registry limit w.queue
            index := reindexed enrich registry (claim limit w).tasks w }) := by
  rw [exec_tick_of_accepted enrich h]
  split
  · rename_i hnone
    have hnone' : (w.queue.claimDue limit).1.tasks = [] := hnone
    have hqueue : settled registry limit w.queue = w.queue := by
      rw [settled_eq, hnone']
      simp [setAsideOf]
    rw [hqueue, hnone]
    rfl
  · rfl

/-- **A tick with nothing in its way**, whether it finds a task or not. -/
theorem exec_tick_of_healthy' (enrich : Transform) (registry : Registry) (limit : Int)
    (h : Healthy w) :
    (Setup.inMemory enrich registry limit).reconciler.tick.exec w
      = (.ok (report registry (claim limit w).tasks (verdict registry (claim limit w).tasks w)),
          { w with
            queue := settled registry limit w.queue
            index := reindexed enrich registry (claim limit w).tasks w }) :=
  exec_tick_of_accepted' enrich (h.accepted registry limit)

/-- The number of claimed tasks of a disposition, as a report gives it. -/
def Report.number (r : Report) : Disposition → Nat
  | .obsolete => r.obsolete
  | .alreadyConsistent => r.alreadyConsistent
  | .needsIndex => r.needsIndex

/-- What a tick has done that claimed some tasks and indexed some entities, from the world before to
the world after. -/
structure Done (enrich : Transform) (registry : Registry) (taken : List Task)
    (ids : List EntityId) (w : World Index) (report : Report) (w' : World Index) : Prop where
  /-- Nothing is touched but what the other fields are about: no lock is added and no tombstone is
  written. -/
  frame : w' = { w with
    queue := { w.queue with tasks := w'.queue.tasks, deadLetters := w'.queue.deadLetters }
    index := { w.index with documents := w'.index.documents, upserts := w'.index.upserts } }
  /-- The claimed tasks are gone from the queue. -/
  tasks : w'.queue.tasks = w.queue.tasks.filter fun t => t.id ∉ taken.map Task.id
  /-- Where identifiers tell tasks apart, these and no others. -/
  others : (w.queue.tasks.map Task.id).Nodup →
    w'.queue.tasks = w.queue.tasks.filter fun t => t ∉ taken
  /-- Those of them that cannot be read are with the dead letters, in their order. -/
  deadLetters : w'.queue.deadLetters = w.queue.deadLetters ++
    taken.filterMap fun t => (fault? registry t).map (DeadLetter.mk t)
  /-- The entities that were indexed are those named whose version the index did not have, each once
  and in the order in which they are first named. -/
  indexed : Firsts (taken.filterMap (named? registry))
    (fun i => ∃ e, w.store.live? i = some e ∧ ¬w.index.HasVersion i e.updated) ids
  /-- They are written by one call, and where there are none there is no call. -/
  calls : w'.index.upserts = w.index.upserts ++ if ids = [] then [] else [ids]
  /-- The index holds their documents afterwards. -/
  documents : ∀ i ∈ ids, ∃ e, w.store.live? i = some e ∧
    w'.index.stored? i = some (.live ⟨i, e.updated, (enrich e (.ofEntity e)).body⟩)
  /-- It holds what it held of all others. -/
  unchanged : ∀ i, i ∉ ids → w'.index.stored? i = w.index.stored? i
  claimed : report.claimed = taken.length
  total : report.claimed
    = report.obsolete + report.alreadyConsistent + report.needsIndex + report.quarantined
  counted : ∀ d, report.number d
    = taken.countP fun t => (named? registry t).map (standing w) = some d
  quarantined : report.quarantined = taken.countP fun t => (fault? registry t).isSome
  indexedEntities : report.indexedEntities = ids.length

/-- What goes by identifiers goes by tasks, where no two have the same. -/
theorem filter_notMem_ids {ts claimed : List Task} (hnodup : (ts.map Task.id).Nodup)
    (hsub : ∀ t ∈ claimed, t ∈ ts) :
    (ts.filter fun t => t.id ∉ claimed.map Task.id) = ts.filter fun t => t ∉ claimed := by
  refine List.filter_congr fun t ht => ?_
  have hiff : t.id ∈ claimed.map Task.id ↔ t ∈ claimed := by
    constructor
    · intro h
      obtain ⟨t', ht', hid⟩ := List.mem_map.mp h
      exact List.inj_on_of_nodup_map hnodup (hsub t' ht') ht hid ▸ ht'
    · exact List.mem_map_of_mem
  simp only [hiff]

theorem total_report (registry : Registry) (tasks : List Task) (verdict : EntityId → Disposition) :
    (report registry tasks verdict).claimed = (report registry tasks verdict).resolved := by
  have hcounts := count_obsolete_add (references registry tasks) verdict
  have hlength := length_references_add registry tasks
  simp only [report, Report.resolved]
  omega

/-- **What a successful tick does.**  With the store and the index up and nothing rejected, a tick
succeeds whatever the limit is, and takes the first due tasks by age. -/
theorem successful_tick (enrich : Transform) (registry : Registry) (limit : Int) (h : Healthy w) :
    ∃ due, ByAge (w.queue.tasks.filter fun t => t.scheduledAt < w.queue.now ∧ t.id ∉ w.queue.locked)
        due ∧
      ∃ ids report w',
        (Setup.inMemory enrich registry limit).reconciler.tick.exec w = (.ok report, w') ∧
          Done enrich registry (due.take limit.toNat) ids w report w' := by
  have hdue : ByAge (w.queue.tasks.filter fun t =>
      t.scheduledAt < w.queue.now ∧ t.id ∉ w.queue.locked) w.queue.due := by
    have hsame : w.queue.isDue
        = fun t => decide (t.scheduledAt < w.queue.now ∧ t.id ∉ w.queue.locked) := by
      funext t
      rw [Queue.isDue, Bool.decide_and]
    rw [← hsame]
    exact w.queue.byAge_due
  refine ⟨w.queue.due, hdue, todo registry (claim limit w).tasks w, _, _,
    exec_tick_of_healthy' enrich registry limit h, ?_⟩
  constructor
  case frame =>
    rw [settled_eq, reindexed]
    split
    · rfl
    · rfl
  case tasks => rw [settled_eq]; rfl
  case others =>
    intro hnodup
    rw [settled_eq]
    exact filter_notMem_ids hnodup fun t ht => (Queue.mem_of_mem_claimDue ht).1
  case deadLetters => rw [settled_eq]; rfl
  case indexed =>
    have hfirsts := firsts_distinct_filter ((claim limit w).tasks.filterMap (named? registry))
      fun i => standing w i = .needsIndex
    rw [← todo_eq] at hfirsts
    exact ⟨fun i => by rw [hfirsts.mem_iff, standing_eq_needsIndex]; rfl, hfirsts.order⟩
  case calls => exact upserts_reindexed_eq enrich registry _ w
  case documents =>
    intro i hi
    obtain ⟨e, hlive, hstored⟩ := stored?_reindexed enrich hi (h.notMem_rejected i)
    refine ⟨e, hlive, ?_⟩
    rw [hstored, Indexer.document, Store.id_of_live? hlive]
  case unchanged => exact fun i hi => stored?_reindexed_of_notMem (.inr hi)
  case claimed => rfl
  case total => exact total_report registry _ _
  case counted =>
    intro d
    rw [← count_verdict d]
    cases d with
    | obsolete => rfl
    | alreadyConsistent => rfl
    | needsIndex => rfl
  case quarantined => exact length_malformed registry _
  case indexedEntities => rfl

/-- Two live entities, of which the index holds the second, and six tasks: two for each of them, one
for an entity that does not exist, and one that cannot be read. -/
def mixed : World Index :=
  let entity n := EntityId.mk (.ofNat n)
  let task n := TaskId.mk (.ofNat (10 + n))
  let note (q : Queue) (n e : Nat) := q.enqueue (task n) (entity e) syncEntityTag none
  let unreadable := Transaction.empty.stageRaw ⟨0, 0⟩ (task 3) syncEntityTag .null none
  let queue := (note (note (Queue.empty ⟨0, 0⟩) 1 1) 2 2).commitProducer unreadable
  { World.start ⟨0, 0⟩ (Index.empty.seed ⟨entity 2, ⟨8, 0⟩, []⟩) with
    queue := (note (note (note queue 4 1) 5 3) 6 2).advance moment
    store := (Store.empty.putLive (entity 1) ⟨7, 0⟩ .null).putLive (entity 2) ⟨8, 0⟩ .null }

theorem claim_mixed : claim 5 mixed = ⟨mixed.queue.tasks.take 5, [], []⟩ := by
  have hdue : mixed.queue.due = mixed.queue.tasks :=
    Queue.due_of_pairwise (List.filter_eq_self.mpr (by decide +kernel)) (by decide +kernel)
  rw [claim, Queue.claimDue, hdue]
  rfl

theorem successful_tick_mixed :
    let tick := (Setup.inMemory Enrichment.textLength Registry.standard 5).reconciler.tick
    Healthy mixed ∧ (tick.exec mixed).1 = .ok ⟨5, 1, 1, 2, 1, 1⟩ ∧
      ∃ due, ByAge (mixed.queue.tasks.filter fun t =>
          t.scheduledAt < mixed.queue.now ∧ t.id ∉ mixed.queue.locked) due ∧
        ∃ ids report w', tick.exec mixed = (.ok report, w') ∧
          Done Enrichment.textLength Registry.standard (due.take 5) ids mixed report w' := by
  have hhealthy : Healthy mixed := ⟨rfl, rfl, rfl⟩
  refine ⟨hhealthy, ?_, successful_tick Enrichment.textLength Registry.standard 5 hhealthy⟩
  rw [exec_tick_of_healthy' _ _ _ hhealthy, claim_mixed]
  decide +kernel

end Outbox.Reconciler
