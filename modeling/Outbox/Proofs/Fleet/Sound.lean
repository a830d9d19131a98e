import Outbox.Proofs.Fleet.Scene
import Outbox.Proofs.Fleet.Steps

/-!
# What every event keeps

`Fleet.Sound` holds at the start and is kept by every event: claims fit the queue, every consumer is
coherent with what entities and tasks look like, and for every entity that was changed its last task
is in the queue or the index is good.

* `Sound.start` — it holds at the start;
* `Sound.withStage`, `Sound.withIndex`, `Sound.settled` — a consumer goes on without touching entities
  or tasks, or writes the index, or commits;
* `Sound.stale_or_current`, `Sound.informed_of_read`, `Sound.overwrites` — judging, planning and
  writing are from what is there.
-/

namespace Outbox.Fleet

open Outbox.Indexer Outbox.Memory Outbox.Reconciler Outbox.Simulation Outbox.Time

variable {κ : Type}

/-- What entities and tasks look like. -/
def scene (s : Fleet κ) : Scene where
  entity := s.world.store.entity?
  stored := s.world.index.stored?
  queued := s.world.queue.tasks.map Task.id
  latest := s.latest
  outdated := s.outdated
  versions := s.versions

/-- The claims that are open. -/
def claims (s : Fleet κ) : κ → Option Claim := fun k => (s.stage k).claim?

/-- The fleet as its history makes it. -/
structure Sound (registry : Registry) (s : Fleet κ) : Prop where
  fits : s.world.queue.Fits s.claims
  tasks_issued : ∀ t ∈ s.world.queue.tasks, t.id ∈ s.issued
  latest_issued : ∀ e i, s.scene.latest e = some i → i ∈ s.issued
  loaded_issued : ∀ k e i, s.loadedAt k e = some i → i ∈ s.issued
  latest_names : ∀ e i, s.scene.latest e = some i →
    ∀ t ∈ s.world.queue.tasks, t.id = i → Names registry t e
  versions_seen : ∀ e ent, s.scene.entity e = some ent → (e, ent.updated) ∈ s.scene.versions
  /-- The last task of an entity is there, or the index is good. -/
  accounted : ∀ e i, s.scene.latest e = some i →
    i ∈ s.scene.queued ∨ s.scene.Good (Several κ) e
  outdated_past : ∀ e, s.scene.outdated e = true →
    ∀ ent, s.scene.live e = some ent → ¬s.scene.HasVersion e ent.updated
  coherent : ∀ k, s.scene.Coherent (Several κ) (s.loadedAt k) (s.stage k)

theorem Sound.start (registry : Registry) (now : Timestamp) (store : Store) (index : Index) :
    (start now store index : Fleet κ).Sound registry where
  fits := Queue.Fits.of_unlocked List.nodup_nil rfl
  tasks_issued := nofun
  latest_issued := nofun
  loaded_issued := nofun
  latest_names := nofun
  versions_seen e ent hent := List.mem_map.mpr ⟨(e, ent), Table.mem_of_find? hent, rfl⟩
  accounted := nofun
  outdated_past := nofun
  coherent _ := Scene.Coherent.resting _ _ _ none

namespace Sound

variable {registry : Registry} {s s' : Fleet κ} {k : κ}

/-! ### Kinds of events -/

/-- **Going on.**  A consumer reaches another stage, and at most claims and gives back; or the
services go down or come up, and the clock moves. -/
theorem withStage (h : s.Sound registry) (hscene : s'.scene = s.scene)
    (htasks : s'.world.queue.tasks = s.world.queue.tasks) (hissued : s'.issued = s.issued)
    (hothers : ∀ j, j ≠ k → s'.stage j = s.stage j ∧ s'.loadedAt j = s.loadedAt j)
    (hloaded : ∀ e i, s'.loadedAt k e = some i → i ∈ s.issued)
    (hfits : s'.world.queue.Fits s'.claims)
    (hcoherent : s.scene.Coherent (Several κ) (s'.loadedAt k) (s'.stage k)) :
    s'.Sound registry where
  fits := hfits
  tasks_issued := by
    rw [htasks, hissued]
    exact h.tasks_issued
  latest_issued := by
    rw [hscene, hissued]
    exact h.latest_issued
  loaded_issued j e i hi := by
    rw [hissued]
    by_cases hj : j = k
    · exact hloaded e i (hj ▸ hi)
    · rw [(hothers j hj).2] at hi
      exact h.loaded_issued j e i hi
  latest_names := by
    rw [hscene, htasks]
    exact h.latest_names
  versions_seen := by
    rw [hscene]
    exact h.versions_seen
  accounted := by
    rw [hscene]
    exact h.accounted
  outdated_past := by
    rw [hscene]
    exact h.outdated_past
  coherent j := by
    rw [hscene]
    by_cases hj : j = k
    · rw [hj]
      exact hcoherent
    · rw [(hothers j hj).1, (hothers j hj).2]
      exact h.coherent j

/-- **Writing.**  A consumer writes the index from what it knows, and reaches another stage under
the same claim. -/
theorem withIndex (h : s.Sound registry) {asked : Claim} {written : EntityId → Prop}
    (hw : Scene.Overwrites (Several κ) s.scene (s.loadedAt k) asked.ids written s'.scene)
    (hqueue : s'.world.queue = s.world.queue) (hissued : s'.issued = s.issued)
    (hloaded : s'.loadedAt = s.loadedAt) (hothers : ∀ j, j ≠ k → s'.stage j = s.stage j)
    (hfits : s.world.queue.Fits s'.claims)
    (hcoherent : s'.scene.Coherent (Several κ) (s.loadedAt k) (s'.stage k)) :
    s'.Sound registry where
  fits := hqueue ▸ hfits
  tasks_issued := by
    rw [hqueue, hissued]
    exact h.tasks_issued
  latest_issued := by
    rw [hw.latest, hissued]
    exact h.latest_issued
  loaded_issued := by
    rw [hloaded, hissued]
    exact h.loaded_issued
  latest_names := by
    rw [hw.latest, hqueue]
    exact h.latest_names
  versions_seen := by
    rw [hw.entity, hw.versions]
    exact h.versions_seen
  accounted e i hi := by
    rw [hw.latest] at hi
    exact hw.accounted hi (h.accounted e i hi)
  outdated_past e hmarked ent hlive :=
    hw.not_hasVersion (h.outdated_past e) hmarked hlive
  coherent j := by
    rw [hloaded]
    by_cases hj : j = k
    · rw [hj]
      exact hcoherent
    · rw [hothers j hj]
      exact (h.coherent j).overwritten hw fun _ _ _ _ => .inr ⟨j, k, hj⟩

/-- **Committing.**  A consumer that owes nothing deletes tasks of its claim and rests. -/
theorem settled (h : s.Sound registry) {asked : Claim}
    (howes : ∀ e i, s.scene.latest e = some i → i ∈ asked.ids → s.scene.Good (Several κ) e)
    {queued : List TaskId} (hscene : s'.scene = { s.scene with queued := queued })
    (htasks : ∀ t ∈ s'.world.queue.tasks, t ∈ s.world.queue.tasks)
    (hkept : ∀ i ∈ s.scene.queued, i ∈ queued ∨ i ∈ asked.ids)
    (hissued : s'.issued = s.issued) (hloaded : s'.loadedAt = s.loadedAt)
    (hothers : ∀ j, j ≠ k → s'.stage j = s.stage j)
    (hfits : s'.world.queue.Fits s'.claims)
    (hrests : ∃ last, s'.stage k = .resting last) : s'.Sound registry where
  fits := hfits
  tasks_issued := by
    rw [hissued]
    exact fun t ht => h.tasks_issued t (htasks t ht)
  latest_issued := by
    rw [hscene, hissued]
    exact h.latest_issued
  loaded_issued := by
    rw [hloaded, hissued]
    exact h.loaded_issued
  latest_names := by
    rw [hscene]
    exact fun e i hi t ht => h.latest_names e i hi t (htasks t ht)
  versions_seen := by
    rw [hscene]
    exact h.versions_seen
  accounted := by
    rw [hscene]
    intro e i hi
    rcases h.accounted e i hi with hqueued | hgood
    · exact (hkept i hqueued).imp_right (howes e i hi)
    · exact .inr hgood
  outdated_past := by
    rw [hscene]
    exact h.outdated_past
  coherent j := by
    rw [hscene, hloaded]
    by_cases hj : j = k
    · obtain ⟨last, hlast⟩ := hrests
      rw [hj, hlast]
      exact Scene.Coherent.resting _ _ _ last
    · rw [hothers j hj]
      exact (h.coherent j).requeued fun _ _ => .inr ⟨j, k, hj⟩

/-! ### What a consumer knows -/

/-- A claimed task that is the last one of an entity names that entity. -/
theorem names_of_held (h : s.Sound registry) {claim : Claim}
    (hclaim : (s.stage k).claim? = some claim) {e : EntityId} {i : TaskId}
    (hi : s.scene.latest e = some i) (hheld : i ∈ claim.ids) :
    ∃ t ∈ claim.tasks, Names registry t e := by
  obtain ⟨t, ht, rfl⟩ := List.mem_map.mp hheld
  exact ⟨t, ht, h.latest_names e t.id hi t (h.fits.held k claim hclaim t ht) rfl⟩

/-- What a consumer has seen of an entity in the store, and finds in the index, decides its verdict:
either the entity is to be indexed, or the index holds its version. -/
theorem stale_or_current {claim : Claim} {primary : Table EntityId PrimaryStatus} {e : EntityId}
    (hnamed : ∃ t ∈ claim.tasks, Names registry t e)
    (hsight : Table.find? primary e = (s.world.store.entity? e).map Entity.status) :
    e ∈ stale (references registry claim.tasks) (classify primary
        (s.world.index.statuses (referenced (references registry claim.tasks)))) ∨
      s.scene.Current e := by
  rw [or_iff_not_imp_right]
  intro hnot
  refine mem_stale.mpr ⟨hnamed, ?_⟩
  rw [classify, hsight, Index.find?_statuses, if_pos (mem_referenced.mpr hnamed),
    compareStatus_eq_needsIndex]
  rw [Scene.Current] at hnot
  push Not at hnot
  exact hnot

/-- A plan that is made from the store as it is knows all there is to know. -/
theorem informed_of_read (h : s.Sound registry) (enrich : Transform) (ids : List EntityId)
    (held : List TaskId) :
    s.scene.Informed (Several κ) s.latest (plan enrich ids (s.world.store.fetch ids)) held where
  seen d hd := by
    obtain ⟨i, -, ent, hlive, rfl⟩ := mem_documents.mp hd
    rw [document_id, document_updated, Store.id_of_live? hlive]
    exact h.versions_seen i ent (Store.live?_eq_some.mp hlive).1
  documents_current d hd _ := by
    obtain ⟨i, -, ent, hlive, rfl⟩ := mem_documents.mp hd
    refine ⟨ent, ?_, rfl⟩
    rw [document_id, Store.id_of_live? hlive]
    exact hlive
  documents_past _ _ hne := absurd rfl hne
  tombstoned_current _ he _ := (mem_tombstoned.mp he).2
  overtaken _ _ _ hne := absurd rfl hne

/-- What a call leaves of the scene: it marks and changes what it reaches, and nothing else.  A plan
was made from what was known, so what is written is current where nothing was missed, and is not
where something was. -/
theorem overwrites (h : s.Sound registry) {asked : Claim} {p : Plan}
    (hasked : (s.stage k).claim? = some asked) (hplan : (s.stage k).plan? = some p)
    (ids : List EntityId) (after : Index)
    (hkept : ∀ e, e ∈ s.world.index.rejected ∨ e ∉ ids → after.stored? e = s.world.index.stored? e)
    (hcurrent : ∀ e ∈ ids, e ∉ s.world.index.rejected → s.loadedAt k e = s.latest e →
      ∀ ent, s.scene.live e = some ent → after.HasVersion e ent.updated)
    (hpast : ∀ e ∈ ids, e ∉ s.world.index.rejected → s.loadedAt k e ≠ s.latest e →
      ∀ ent, s.scene.live e = some ent → ¬after.HasVersion e ent.updated) :
    Scene.Overwrites (Several κ) s.scene (s.loadedAt k) asked.ids
      (fun e => e ∈ ids ∧ s.world.index.available = true ∧ e ∉ s.world.index.rejected)
      { s.scene with
        stored := (writing s.world.index ids after).2.stored?
        outdated := s.outdatedAfter k ids } := by
  constructor
  case entity => rfl
  case queued => rfl
  case latest => rfl
  case versions => rfl
  case kept =>
    intro e he
    exact ⟨stored?_writing_of_not_reached hkept he, if_neg he⟩
  case marked =>
    intro e he
    show s.outdatedAfter k ids e = true ↔ _
    rw [outdatedAfter, if_pos he, decide_eq_true_eq]
    rfl
  case current =>
    intro e he hl ent hlive
    obtain ⟨d, hd, hupdated⟩ := hcurrent e he.1 he.2.2 hl ent hlive
    exact ⟨d, (stored?_writing_of_reached he).trans hd, hupdated⟩
  case past =>
    rintro e he hl ent hlive ⟨d, hd, hupdated⟩
    refine hpast e he.1 he.2.2 hl ent hlive ⟨d, ?_, hupdated⟩
    exact (stored?_writing_of_reached he).symm.trans hd
  case overtaken => exact ((h.coherent k).informed asked p hasked hplan).overtaken

end Sound

end Outbox.Fleet
