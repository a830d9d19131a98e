import Outbox.Proofs.Reconciler.Healthy
import Outbox.Proofs.Redelivery.Attempt

/-!
# At-least-once delivery is harmless

A tick that is cut short after it wrote to the index leaves its tasks in the queue, and the next tick
does them again.  Compared with a tick that nothing disturbed, the one that comes after an abandoned
attempt ends with the same queue and the same documents.  It finds what the attempt wrote already
consistent, and leaves it alone.

* `mem_todo_healed` — the entities that are left to be indexed;
* `redelivery_harmless` — what the two ticks have in common.
-/

namespace Outbox.Redelivery

open Outbox.Fleet Outbox.Memory Outbox.Reconciler Outbox.Simulation

/-- The world with every fault lifted. -/
def healed (w : World Index) : World Index :=
  { w with
    store := w.store.setAvailable true
    index := { w.index with available := true, rejected := [] } }

theorem healthy_healed (w : World Index) : Healthy (healed w) := ⟨rfl, rfl, rfl⟩

/-- What a tick that comes after an abandoned attempt has in common with one that nothing disturbed:
the worlds they end in, and their reports.  The attempt led from `w` to `w'`. -/
structure Harmless (w w' : World Index) (written : List EntityId) (clean retry : World Index)
    (done redone : Report) : Prop where
  tasks : retry.queue.tasks = clean.queue.tasks
  deadLetters : retry.queue.deadLetters = clean.queue.deadLetters
  locked : retry.queue.locked = clean.queue.locked
  documents : ∀ i, retry.index.stored? i = clean.index.stored? i
  claimed : redone.claimed = done.claimed
  obsolete : redone.obsolete = done.obsolete
  quarantined : redone.quarantined = done.quarantined
  /-- What was written by the attempt counts as consistent now. -/
  settled : redone.alreadyConsistent + redone.needsIndex = done.alreadyConsistent + done.needsIndex
  /-- What was written by the attempt is not written again: nothing that the index took from it, and
  nothing that has changed under it. -/
  spared : ∃ calls, retry.index.upserts = w'.index.upserts ++ calls ∧
    ∀ ids ∈ calls, ∀ i ∈ ids, i ∉ written ∧ w'.index.stored? i = w.index.stored? i
  tombstones : retry.index.tombstones = w'.index.tombstones

variable {enrich : Transform} {registry : Registry} {limit : Int} {w w' : World Index}
  {written : List EntityId}

/-! ### What is left to do -/

/-- **What is left.**  The entities that the attempt did not write. -/
theorem mem_todo_healed (hentities : w'.store.entities = w.store.entities)
    (h : Ahead enrich registry limit w w'.index written) {i : EntityId} :
    i ∈ todo registry (claim limit w).tasks (healed w') ↔
      i ∈ todo registry (claim limit w).tasks (healed w) ∧ i ∉ written := by
  have hlive : (healed w').store.live? i = (healed w).store.live? i := Store.live?_congr hentities i
  rw [mem_todo, mem_todo, hlive]
  by_cases hi : i ∈ written
  · -- it has the document of its entity, and so its version
    obtain ⟨entity, hentity, hstored⟩ := h.current i hi
    have hversion : (healed w').index.HasVersion i entity.updated := ⟨_, hstored, rfl⟩
    have hentity' : (healed w).store.live? i = some entity := hentity
    rw [hentity']
    constructor
    · rintro ⟨-, e, he, hstale⟩
      cases he
      exact absurd hversion hstale
    · rintro ⟨-, hnot⟩
      exact absurd hi hnot
  · have hsame : (healed w').index.stored? i = (healed w).index.stored? i := h.frame i hi
    simp only [Index.HasVersion.congr hsame, hi, not_false_eq_true, and_true]

/-- What the attempt wrote was stale, and would be so still. -/
theorem Ahead.todo (h : Ahead enrich registry limit w w'.index written) {i : EntityId}
    (hi : i ∈ written) : i ∈ todo registry (claim limit w).tasks (healed w) := by
  have hwanted := mem_todo.mp (h.wanted i hi)
  exact mem_todo.mpr hwanted

/-- **The documents afterwards.**  What the attempt wrote is what the undisturbed tick writes. -/
theorem stored?_reindexed_healed (hentities : w'.store.entities = w.store.entities)
    (h : Ahead enrich registry limit w w'.index written) (i : EntityId) :
    (reindexed enrich registry (claim limit w).tasks (healed w')).stored? i
      = (reindexed enrich registry (claim limit w).tasks (healed w)).stored? i := by
  have hleft := mem_todo_healed hentities h (i := i)
  by_cases hi : i ∈ todo registry (claim limit w).tasks (healed w)
  · obtain ⟨entity, hentity, hclean⟩ := stored?_reindexed enrich hi ((healthy_healed w).notMem_rejected i)
    rw [hclean]
    by_cases hdone : i ∈ written
    · obtain ⟨entity', hentity', hstored⟩ := h.current i hdone
      have hsame : entity' = entity := Option.some.inj (hentity'.symm.trans hentity)
      rw [stored?_reindexed_of_notMem (.inr (hleft.not.mpr fun hn => hn.2 hdone)), ← hsame]
      exact hstored
    · obtain ⟨entity', hentity', hretry⟩ :=
        stored?_reindexed enrich (hleft.mpr ⟨hi, hdone⟩) ((healthy_healed w').notMem_rejected i)
      have hlive : (healed w').store.live? i = (healed w).store.live? i :=
        Store.live?_congr hentities i
      have hsame : entity' = entity := Option.some.inj (hentity'.symm.trans (hlive.trans hentity))
      rw [hretry, hsame]
  · have hdone : i ∉ written := fun hwritten => hi (h.todo hwritten)
    rw [stored?_reindexed_of_notMem (.inr hi),
      stored?_reindexed_of_notMem (.inr (hleft.not.mpr fun hn => hi hn.1))]
    exact h.frame i hdone

/-- What is obsolete depends on the store alone. -/
theorem count_obsolete_congr (registry : Registry) (tasks : List Task)
    (hentities : w'.store.entities = w.store.entities) :
    count (references registry tasks) (verdict registry tasks w') .obsolete
      = count (references registry tasks) (verdict registry tasks w) .obsolete := by
  refine List.countP_congr fun r hr => ?_
  have hmem : r.2 ∈ referenced (references registry tasks) := by
    rw [referenced, mem_distinct]
    exact List.mem_map_of_mem hr
  have hlive : w'.store.live? r.2 = w.store.live? r.2 := Store.live?_congr hentities r.2
  rw [decide_eq_true_eq, decide_eq_true_eq, verdict, verdict, classify_statuses hmem,
    classify_statuses hmem, compareStatus_eq_obsolete, compareStatus_eq_obsolete, hlive]

/-! ### The two ticks -/

/-- The attempt left the queue and the entities as they were, and the index ahead: the tick that
follows does the rest. -/
theorem harmless_of_ahead (hqueue : w'.queue = w.queue)
    (hentities : w'.store.entities = w.store.entities)
    (h : Ahead enrich registry limit w w'.index written) :
    let tick := (Setup.inMemory enrich registry limit).reconciler.tick
    ∃ clean retry done redone,
      tick.exec (healed w) = (.ok done, clean) ∧ tick.exec (healed w') = (.ok redone, retry) ∧
        Harmless w w' written clean retry done redone := by
  have hclaim : claim limit (healed w) = claim limit w := rfl
  have hclaim' : claim limit (healed w') = claim limit w :=
    congrArg (fun q => (q.claimDue limit).1) hqueue
  have hclean := exec_tick_of_healthy enrich registry limit (healthy_healed w)
  have hretry := exec_tick_of_healthy enrich registry limit (healthy_healed w')
  rw [hclaim] at hclean
  rw [hclaim'] at hretry
  by_cases hnil : (claim limit w).tasks = []
  · rw [if_pos hnil] at hclean hretry
    refine ⟨_, _, _, _, hclean, hretry, ?_⟩
    -- no task names anything, so the attempt has written nothing
    have hnone : ∀ i, i ∉ written := by
      intro i hi
      obtain ⟨⟨t, ht, -⟩, -⟩ := mem_todo.mp (h.wanted i hi)
      rw [hnil] at ht
      cases ht
    exact {
      tasks := congrArg Queue.tasks hqueue
      deadLetters := congrArg Queue.deadLetters hqueue
      locked := congrArg Queue.locked hqueue
      documents := fun i => h.frame i (hnone i)
      claimed := rfl
      obsolete := rfl
      quarantined := rfl
      settled := rfl
      spared := ⟨[], (List.append_nil _).symm, fun _ hids => absurd hids List.not_mem_nil⟩
      tombstones := rfl }
  · rw [if_neg hnil] at hclean hretry
    refine ⟨_, _, _, _, hclean, hretry, ?_⟩
    have hsettled : settled registry limit (healed w').queue
        = settled registry limit (healed w).queue := congrArg (settled registry limit) hqueue
    have hobsolete : count (references registry (claim limit w).tasks)
          (verdict registry (claim limit w).tasks (healed w')) .obsolete
        = count (references registry (claim limit w).tasks)
          (verdict registry (claim limit w).tasks (healed w)) .obsolete :=
      count_obsolete_congr registry (claim limit w).tasks hentities
    obtain ⟨calls, hcalls, hids⟩ :=
      upserts_reindexed enrich registry (claim limit w).tasks (healed w')
    exact {
      tasks := congrArg Queue.tasks hsettled
      deadLetters := congrArg Queue.deadLetters hsettled
      locked := congrArg Queue.locked hsettled
      documents := stored?_reindexed_healed hentities h
      claimed := rfl
      obsolete := hobsolete
      quarantined := rfl
      settled := by
        have hclean := count_obsolete_add (references registry (claim limit w).tasks)
          (verdict registry (claim limit w).tasks (healed w))
        have hretry := count_obsolete_add (references registry (claim limit w).tasks)
          (verdict registry (claim limit w).tasks (healed w'))
        simp only [report]
        omega
      spared := by
        refine ⟨calls, hcalls, fun ids hmem i hi => ?_⟩
        have hspared := ((mem_todo_healed hentities h).mp ((hids ids hmem i).mp hi)).2
        exact ⟨hspared, h.frame i hspared⟩
      tombstones := tombstones_reindexed }

/-- **At-least-once delivery is harmless.**  Whatever happens to a tick that does not get to its
commit, the next tick ends where a tick would have ended that nothing disturbed. -/
theorem redelivery_harmless {turns : List Turn} {a : Attempt}
    (hrun : (Attempt.start w).run (Setup.inMemory enrich registry limit).reconciler turns = a)
    (hleft : a.abandoned? = some w') :
    let tick := (Setup.inMemory enrich registry limit).reconciler.tick
    ∃ clean retry done redone,
      tick.exec (healed w) = (.ok done, clean) ∧ tick.exec (healed w') = (.ok redone, retry) ∧
        Harmless w w' a.written clean retry done redone := by
  have hsound : Sound enrich registry limit w a :=
    hrun ▸ (Sound.start enrich registry limit w).run turns
  obtain ⟨hqueue, hentities, hahead⟩ := hsound.abandoned hleft
  exact harmless_of_ahead hqueue hentities hahead

/-- A tick that writes one of two documents, as the index rejects the other, and whose consumer
crashes when the index has gone down as well. -/
def interrupted : List Turn :=
  [.step, .step, .step, .step, .step, .setIndexAvailable false]

theorem redelivery_harmless_interrupted :
    let r := (Setup.inMemory Enrichment.textLength Registry.standard 10).reconciler
    let a := (Attempt.start rejecting).run r interrupted
    a.written = [⟨.ofNat 2⟩] ∧ ∃ w', a.abandoned? = some w' ∧ ∃ clean retry done redone,
      r.tick.exec (healed rejecting) = (.ok done, clean) ∧
        r.tick.exec (healed w') = (.ok redone, retry) ∧
          Harmless rejecting w' a.written clean retry done redone := by
  intro r a
  have hqueue : (rejecting.queue.claimDue 10).2 = { rejecting.queue with
      locked := rejecting.queue.tasks.map Task.id } := by
    rw [Queue.claimDue, due_rejecting]
    rfl
  have hfirst : (Attempt.start rejecting).step r
      = ⟨{ rejecting with
          queue := { rejecting.queue with locked := rejecting.queue.tasks.map Task.id } },
        .claimed ⟨rejecting.queue.tasks, [], []⟩, []⟩ := by
    have hclaim := exec_resting (alone Enrichment.textLength Registry.standard 10) () rejecting none
    rw [Attempt.step_eq (fun _ h => by cases h) hclaim, claiming, hqueue, claim_rejecting]
    rfl
  have hrun : a = ((Attempt.start rejecting).step r).run r interrupted.tail := rfl
  have hwritten : a.written = [⟨.ofNat 2⟩] := by
    rw [hrun, hfirst]
    decide +kernel
  have hsome : a.abandoned?.isSome = true := by
    rw [hrun, hfirst]
    decide +kernel
  obtain ⟨w', hleft⟩ := Option.isSome_iff_exists.mp hsome
  exact ⟨hwritten, w', hleft, redelivery_harmless rfl hleft⟩

end Outbox.Redelivery
