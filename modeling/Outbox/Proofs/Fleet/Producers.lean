import Outbox.Proofs.Fleet.Consumers

/-!
# Every event keeps the fleet sound

Producers, faults of the services and the clock, next to what `Consumers` has about consumers.

* `Mutation.live?_apply` — an entity that is live after a change has a version that came with it;
* `Sound.change` — a change comes with a task that nobody holds yet;
* `Sound.step`, `Sound.run` — every event keeps the fleet sound, and so does every list of events.
-/

namespace Outbox

open Outbox.Memory Outbox.Reconciler Outbox.Simulation Outbox.Time

namespace Mutation

variable {m : Mutation} {s : Store}

theorem entity?_apply_of_ne {e : EntityId} (h : e ≠ m.entity) :
    (m.apply s).entity? e = s.entity? e := by
  cases m with
  | put ent => exact (Store.entity?_put s ent e).trans (if_neg (Ne.symm h))
  | markDeleted i => exact (Store.entity?_markDeleted s i e).trans (if_neg (Ne.symm h))
  | remove i => exact (Store.entity?_remove s i e).trans (if_neg (Ne.symm h))

/-- An entity has the version that came with a change, or the one it had. -/
theorem version_of_entity?_apply {e : EntityId} {ent : Entity}
    (h : (m.apply s).entity? e = some ent) :
    (e, ent.updated) ∈ m.versions ∨ ∃ old, s.entity? e = some old ∧ old.updated = ent.updated := by
  by_cases he : e = m.entity
  · subst he
    cases m with
    | put ent' =>
        rw [apply, entity, Store.entity?_put, if_pos rfl] at h
        cases h
        exact .inl (List.mem_singleton_self _)
    | markDeleted i =>
        rw [apply, entity, Store.entity?_markDeleted, if_pos rfl] at h
        obtain ⟨old, hold, rfl⟩ := Option.map_eq_some_iff.mp h
        exact .inr ⟨old, hold, rfl⟩
    | remove i =>
        rw [apply, entity, Store.entity?_remove, if_pos rfl] at h
        cases h
  · rw [entity?_apply_of_ne he] at h
    exact .inr ⟨ent, h, rfl⟩

/-- What is live after a change of it has the version that came with the change. -/
theorem live?_apply {ent : Entity} (h : (m.apply s).live? m.entity = some ent) :
    (m.entity, ent.updated) ∈ m.versions := by
  obtain ⟨hent, hdeleted⟩ := Store.live?_eq_some.mp h
  cases m with
  | put ent' =>
      rw [apply, entity, Store.entity?_put, if_pos rfl] at hent
      cases hent
      exact List.mem_singleton_self _
  | markDeleted i =>
      rw [apply, entity, Store.entity?_markDeleted, if_pos rfl] at hent
      obtain ⟨old, hold, rfl⟩ := Option.map_eq_some_iff.mp hent
      cases hdeleted
  | remove i =>
      rw [apply, entity, Store.entity?_remove, if_pos rfl] at hent
      cases hent

end Mutation

namespace Fleet.Sound

variable {κ : Type} {c : Settings κ} {s : Fleet κ}

/-! ### Producers -/

/-- A task with a new identifier fits beside the others. -/
theorem fits_commit (h : s.Sound c.registry) {id : TaskId} (hid : id ∉ s.issued) (tag : String)
    (payload : Json) (scheduledAt : Option Timestamp) :
    (commit s.world id tag payload scheduledAt).queue.Fits s.claims := by
  refine h.fits.commitProducer (List.nodup_singleton id) fun i hi hi' => ?_
  rw [List.mem_singleton.mp hi] at hi'
  obtain ⟨t, ht, heq⟩ := List.mem_map.mp hi'
  have hissued := h.tasks_issued t ht
  rw [heq] at hissued
  exact hid hissued

theorem mem_tasks_commit {w : World Index} {id : TaskId} {tag : String} {payload : Json}
    {scheduledAt : Option Timestamp} {t : Task} :
    t ∈ (commit w id tag payload scheduledAt).queue.tasks ↔
      t ∈ w.queue.tasks ∨ t = newTask w id tag payload scheduledAt := by
  rw [tasks_commit, List.mem_append, List.mem_singleton]

theorem enqueue (h : s.Sound c.registry) (id : TaskId) (tag : String) (payload : Json)
    (scheduledAt : Option Timestamp) : (s.enqueue id tag payload scheduledAt).Sound c.registry := by
  rw [Fleet.enqueue]
  split
  · rename_i hid
    have hqueued : ∀ i ∈ s.scene.queued, i ∈ s.scene.queued ++ [id] := fun i hi =>
      List.mem_append_left _ hi
    have hscene : (Fleet.scene
        { s with
          world := commit s.world id tag payload scheduledAt
          issued := id :: s.issued }) = { s.scene with queued := s.scene.queued ++ [id] } := by
      simp only [scene, tasks_commit, List.map_append]
      rfl
    constructor
    case fits => exact h.fits_commit hid tag payload scheduledAt
    case tasks_issued =>
      intro t ht
      rcases mem_tasks_commit.mp ht with ht | rfl
      · exact List.mem_cons_of_mem _ (h.tasks_issued t ht)
      · exact List.mem_cons_self
    case latest_issued => exact fun e i hi => List.mem_cons_of_mem _ (h.latest_issued e i hi)
    case loaded_issued => exact fun k e i hi => List.mem_cons_of_mem _ (h.loaded_issued k e i hi)
    case latest_names =>
      intro e i hi t ht heq
      rcases mem_tasks_commit.mp ht with ht | rfl
      · exact h.latest_names e i hi t ht heq
      · have hissued := h.latest_issued e i hi
        rw [← heq] at hissued
        exact absurd hissued hid
    case versions_seen => exact h.versions_seen
    case accounted =>
      rw [hscene]
      exact fun e i hi => (h.accounted e i hi).imp_left (hqueued i)
    case outdated_past => exact h.outdated_past
    case coherent =>
      rw [hscene]
      exact fun k => (h.coherent k).requeued fun i hi => .inl (hqueued i hi)
  · exact h

/-- What a change does to the scene. -/
theorem changes (s : Fleet κ) {m : Mutation} (id : TaskId) (tag : String) (payload : Json)
    (scheduledAt : Option Timestamp) (hfresh : ∀ v ∈ m.versions, v ∉ s.versions) :
    Scene.Changes s.scene m.entity id
      (Fleet.scene
        { s with
          world := { commit s.world id tag payload scheduledAt with store := m.apply s.world.store }
          issued := id :: s.issued
          versions := m.versions ++ s.versions
          latest := Function.update s.latest m.entity (some id)
          outdated := Function.update s.outdated m.entity false }) where
  entity e he := Mutation.entity?_apply_of_ne he
  stored := rfl
  queued i hi := by
    obtain ⟨t, ht, rfl⟩ := List.mem_map.mp hi
    exact List.mem_map_of_mem (mem_tasks_commit.mpr (.inl ht))
  enqueued := List.mem_map.mpr ⟨newTask s.world id tag payload scheduledAt,
    mem_tasks_commit.mpr (.inr rfl), rfl⟩
  latest := rfl
  outdated := rfl
  versions v hv := List.mem_append_right _ hv
  fresh ent hlive := hfresh _ (Mutation.live?_apply hlive)

/-- **Changes.**  The task of a change is new: nobody holds it, and no plan was made with it. -/
theorem change (h : s.Sound c.registry) (m : Mutation) (id : TaskId) (tag : String) (payload : Json)
    (scheduledAt : Option Timestamp) :
    (s.change c m id tag payload scheduledAt).Sound c.registry := by
  rw [Fleet.change]
  split
  · rename_i hguard
    obtain ⟨hid, hfresh, hnames⟩ := hguard
    have hc := changes s id tag payload scheduledAt hfresh
    constructor
    case fits => exact h.fits_commit hid tag payload scheduledAt
    case tasks_issued =>
      intro t ht
      rcases mem_tasks_commit.mp ht with ht | rfl
      · exact List.mem_cons_of_mem _ (h.tasks_issued t ht)
      · exact List.mem_cons_self
    case latest_issued =>
      intro e i hi
      by_cases he : e = m.entity
      · rw [he, hc.latest_self] at hi
        cases hi
        exact List.mem_cons_self
      · rw [hc.latest_of_ne he] at hi
        exact List.mem_cons_of_mem _ (h.latest_issued e i hi)
    case loaded_issued => exact fun k e i hi => List.mem_cons_of_mem _ (h.loaded_issued k e i hi)
    case latest_names =>
      intro e i hi t ht heq
      by_cases he : e = m.entity
      · rw [he, hc.latest_self] at hi
        cases hi
        rcases mem_tasks_commit.mp ht with ht | rfl
        · have hissued := h.tasks_issued t ht
          rw [heq] at hissued
          exact absurd hissued hid
        · rw [he]
          exact hnames
      · rw [hc.latest_of_ne he] at hi
        rcases mem_tasks_commit.mp ht with ht | rfl
        · exact h.latest_names e i hi t ht heq
        · have hissued := h.latest_issued e i hi
          rw [← heq] at hissued
          exact absurd hissued hid
    case versions_seen =>
      intro e ent hent
      rcases Mutation.version_of_entity?_apply hent with hnew | ⟨old, hold, hupdated⟩
      · exact List.mem_append_left _ hnew
      · rw [← hupdated]
        exact List.mem_append_right _ (h.versions_seen e old hold)
    case accounted =>
      intro e i hi
      by_cases he : e = m.entity
      · rw [he, hc.latest_self] at hi
        cases hi
        exact .inl hc.enqueued
      · rw [hc.latest_of_ne he] at hi
        exact (h.accounted e i hi).imp (hc.queued i) (hc.good_of_ne he).mpr
    case outdated_past =>
      intro e hmarked ent hlive
      rw [hc.outdated] at hmarked
      by_cases he : e = m.entity
      · rw [he, Function.update_self] at hmarked
        cases hmarked
      · rw [Function.update_of_ne he] at hmarked
        rw [hc.live_of_ne he] at hlive
        rw [Scene.HasVersion, hc.stored]
        exact h.outdated_past e hmarked ent hlive
    case coherent =>
      -- neither a claim nor what a consumer knew can have to do with a new task
      intro k
      refine (h.coherent k).changed hc (fun asked hasked hmem => ?_) fun hloaded => ?_
      · obtain ⟨t, ht, rfl⟩ := List.mem_map.mp hmem
        exact hid (h.tasks_issued t (h.fits.held k asked hasked t ht))
      · exact hid (h.loaded_issued k m.entity id hloaded)
  · exact h

/-! ### Every event, and every list of events -/

variable [DecidableEq κ]

/-- **Every event keeps the fleet sound.** -/
theorem step (h : s.Sound c.registry) (e : Event κ) : (s.step c e).Sound c.registry := by
  cases e with
  | change m id tag payload scheduledAt => exact h.change m id tag payload scheduledAt
  | enqueue id tag payload scheduledAt => exact h.enqueue id tag payload scheduledAt
  | step k => exact h.consume k
  | crash k => exact h.crash k
  | setStoreAvailable _ | setIndexAvailable _ | reject _ =>
      exact ⟨h.fits, h.tasks_issued, h.latest_issued, h.loaded_issued, h.latest_names,
        h.versions_seen, h.accounted, h.outdated_past, h.coherent⟩
  | advance nanos =>
      exact ⟨h.fits.advance nanos, h.tasks_issued, h.latest_issued, h.loaded_issued, h.latest_names,
        h.versions_seen, h.accounted, h.outdated_past, h.coherent⟩

/-- So does every list of events. -/
theorem run (h : s.Sound c.registry) (es : List (Event κ)) : (s.run c es).Sound c.registry := by
  induction es generalizing s with
  | nil => exact h
  | cons e es ih => exact ih (h.step e)

end Fleet.Sound

end Outbox
