import Outbox.Proofs.Fleet.Sound

/-!
# Consumers keep the fleet sound

One lemma for each stage that a consumer can take a step from, and one for a crash.

* `Sound.consume_sawStore` — judging: what is not to be indexed is current;
* `Sound.consume_judged` — reading entities: what is owed is in the plan;
* `Sound.consume_loaded`, `Sound.consume_upserted` — writing the index;
* `Sound.consume_written` — deleting tasks, for which nothing is owed any more;
* `Sound.consume`, `Sound.crash` — so every step keeps the fleet sound, and so does every crash.
-/

namespace Outbox.Fleet

open Outbox.Indexer Outbox.Memory Outbox.Reconciler Outbox.Simulation

variable {κ : Type} [DecidableEq κ] {c : Settings κ} {s : Fleet κ} {k : κ}

theorem consume_eq {stage stage' : Stage Claim} {w : World Index} (hst : s.stage k = stage)
    (h : (next (c.reconciler k) stage).exec s.world = (.ok stage', w)) :
    s.consume c k
      = { s.remember k stage with world := w, stage := Function.update s.stage k stage' } := by
  rw [consume, hst, h]

theorem claims_update (s : Fleet κ) (k : κ) (stage : Stage Claim) :
    (fun j => (Function.update s.stage k stage j).claim?)
      = Function.update s.claims k stage.claim? := by
  funext j
  rw [Function.update_apply, Function.update_apply]
  split
  · rfl
  · rfl

/-- The claims are the same when a consumer stays with its claim. -/
theorem claims_update_self {stage : Stage Claim} (h : stage.claim? = (s.stage k).claim?) :
    Function.update s.claims k stage.claim? = s.claims := by
  rw [h]
  exact Function.update_eq_self k s.claims

namespace Sound

/-- A consumer that reaches another stage, with at most the locks of the queue changed. -/
theorem goOn (h : s.Sound c.registry) {q : Queue} {stage : Stage Claim}
    (htasks : q.tasks = s.world.queue.tasks)
    (hfits : q.Fits (Function.update s.claims k stage.claim?))
    (hcoherent : s.scene.Coherent (Several κ) (s.loadedAt k) stage) :
    ({ s with
      world := { s.world with queue := q }
      stage := Function.update s.stage k stage } : Fleet κ).Sound c.registry := by
  refine h.withStage (k := k) ?_ htasks rfl ?_ (h.loaded_issued k) ?_ ?_
  · simp only [scene, htasks]
  · exact fun j hj => ⟨Function.update_of_ne hj .., rfl⟩
  · rw [← claims_update] at hfits
    exact hfits
  · show s.scene.Coherent _ (s.loadedAt k) (Function.update s.stage k stage k)
    rw [Function.update_self]
    exact hcoherent

/-- A consumer that stays under its claim. -/
theorem stay (h : s.Sound c.registry) {stage : Stage Claim}
    (hclaim : stage.claim? = (s.stage k).claim?)
    (hcoherent : s.scene.Coherent (Several κ) (s.loadedAt k) stage) :
    ({ s with stage := Function.update s.stage k stage } : Fleet κ).Sound c.registry :=
  h.goOn rfl ((claims_update_self hclaim).symm ▸ h.fits) hcoherent

/-- A consumer on which a call failed has the claim as it was opened to give back. -/
theorem fits_failed (h : s.Sound c.registry) {claim asked : Claim}
    (hopened : (s.stage k).opened? = some claim) (hasked : (s.stage k).claim? = some asked) :
    claim.deleted = [] ∧ s.world.queue.Fits (Function.update s.claims k (some claim)) := by
  obtain ⟨htasks, hdeleted⟩ := (h.coherent k).opened claim asked hopened hasked
  refine ⟨hdeleted, h.fits.restage hasked htasks.symm fun i hi => ?_⟩
  rw [hdeleted] at hi
  cases hi

theorem fail (h : s.Sound c.registry) {claim : Claim} (hopened : (s.stage k).opened? = some claim)
    (e : Error) :
    ({ s with stage := Function.update s.stage k (.failed claim e) } :
      Fleet κ).Sound c.registry := by
  obtain ⟨asked, hasked⟩ := Stage.exists_claim? hopened
  obtain ⟨hdeleted, hfits⟩ := h.fits_failed hopened hasked
  exact h.goOn rfl hfits (Scene.Coherent.failed _ _ _ hdeleted e)

/-- A consumer whose claim ends without a commit. -/
theorem giveBack (h : s.Sound c.registry) {claim : Claim} (hclaim : (s.stage k).claim? = some claim)
    {claim' : Claim} (htasks : claim'.tasks = claim.tasks) (last : Option (Except Error Report)) :
    ({ s with
      world := { s.world with queue := s.world.queue.release claim' }
      stage := Function.update s.stage k (.resting last) } : Fleet κ).Sound c.registry := by
  refine h.goOn rfl ?_ (Scene.Coherent.resting _ _ _ last)
  rw [s.world.queue.release_congr htasks]
  exact h.fits.release hclaim

/-! ### Before the index is written -/

theorem consume_resting (h : s.Sound c.registry) {last : Option (Except Error Report)}
    (hst : s.stage k = .resting last) : (s.consume c k).Sound c.registry := by
  rw [consume_eq hst (exec_resting c k s.world last)]
  have hnone : s.claims k = none := by rw [claims, hst]; rfl
  exact h.goOn rfl (h.fits.claimDue hnone (c.limit k)) (Scene.Coherent.claimed _ _ _ rfl)

theorem consume_claimed (h : s.Sound c.registry) {claim : Claim}
    (hst : s.stage k = .claimed claim) : (s.consume c k).Sound c.registry := by
  have hclaim : (s.stage k).claim? = some claim := by rw [hst]; rfl
  have hco := h.coherent k
  rw [hst] at hco
  by_cases hnil : claim.tasks = []
  · rw [consume_eq hst (exec_claimed_nil c k s.world hnil)]
    exact h.giveBack hclaim rfl _
  · rw [consume_eq hst (exec_claimed c k s.world hnil), World.read]
    split
    · -- what is read of the last task's entity is what the store holds
      have hids : (claim.setAside (malformed c.registry claim.tasks)).ids = claim.ids := by
        rw [Claim.ids, Claim.tasks_setAside, Claim.ids]
      refine h.goOn rfl ?_ ⟨?_, ?_, ?_, fun _ _ _ hp => by cases hp⟩
      · refine h.fits.restage hclaim (Claim.tasks_setAside _ _) fun i hi => ?_
        rw [hids]
        rw [Claim.deleted_setAside] at hi
        rcases List.mem_append.mp hi with hi | hi
        · exact h.fits.deletes_own k claim hclaim i hi
        · obtain ⟨⟨t, reason⟩, ht, rfl⟩ := List.mem_map.mp hi
          exact List.mem_map_of_mem (mem_malformed.mp ht).1
      · rintro _ _ ⟨⟩ ⟨⟩
        exact ⟨Claim.tasks_setAside _ _, (hco.opened claim claim rfl rfl).2⟩
      · exact fun _ _ _ _ _ _ => .inl trivial
      · rintro _ _ _ ⟨⟩ e i hi hheld
        rw [hids] at hheld
        rw [Store.find?_statuses, if_pos (mem_referenced.mpr (h.names_of_held hclaim hi hheld))]
        rfl
    · exact h.fail (by rw [hst]; rfl) _

theorem consume_sawStore (h : s.Sound c.registry) {claim asked : Claim}
    {primary : Table EntityId PrimaryStatus} (hst : s.stage k = .sawStore claim asked primary) :
    (s.consume c k).Sound c.registry := by
  have hasked : (s.stage k).claim? = some asked := by rw [hst]; rfl
  have hco := h.coherent k
  rw [hst] at hco
  have htasks := hco.opened claim asked rfl rfl
  rw [consume_eq hst (exec_sawStore c k s.world claim asked primary)]
  split
  · -- a last task that is held names its entity, so the verdict is about what is there
    have hjudged : ∀ e i, s.scene.latest e = some i → i ∈ asked.ids →
        e ∈ stale (references c.registry claim.tasks) (classify primary
          (s.world.index.statuses (referenced (references c.registry claim.tasks)))) ∨
        s.scene.Current e := by
      intro e i hi hheld
      have hnamed := h.names_of_held hasked hi hheld
      rw [htasks.1] at hnamed
      exact stale_or_current hnamed (hco.sight claim asked primary rfl e i hi hheld)
    rw [judge]
    dsimp only
    split
    · rename_i hempty
      refine h.stay hasked.symm ⟨?_, ?_, nofun, fun _ _ _ hp => nomatch hp⟩
      · rintro _ _ ⟨⟩ ⟨⟩
        exact htasks
      · rintro _ ⟨⟩ e i hi hheld
        refine .inr (.inl ((hjudged e i hi hheld).resolve_left fun hmem => ?_))
        rw [List.isEmpty_iff.mp hempty] at hmem
        cases hmem
    · refine h.stay hasked.symm ⟨?_, ?_, nofun, fun _ _ _ hp => nomatch hp⟩
      · rintro _ _ ⟨⟩ ⟨⟩
        exact htasks
      · rintro _ ⟨⟩ e i hi hheld
        exact (hjudged e i hi hheld).imp_right .inl
  · exact h.fail (by rw [hst]; rfl) Index.down

/-- Reading entities anew matters to plans only. -/
theorem reload (h : s.Sound c.registry) (hplan : (s.stage k).plan? = none) :
    ({ s with loadedAt := Function.update s.loadedAt k s.latest } : Fleet κ).Sound c.registry := by
  refine h.withStage (k := k) rfl rfl rfl ?_ ?_ h.fits ?_
  · exact fun j hj => ⟨rfl, Function.update_of_ne hj ..⟩
  · intro e i hi
    change Function.update s.loadedAt k s.latest k e = some i at hi
    rw [Function.update_self] at hi
    exact h.latest_issued e i hi
  · have hco := h.coherent k
    refine ⟨hco.opened, hco.owes, hco.sight, fun asked p _ hp => ?_⟩
    rw [hplan] at hp
    cases hp

theorem consume_judged (h : s.Sound c.registry) {claim asked : Claim} {report : Report}
    {todo : List EntityId} (hst : s.stage k = .judged claim asked report todo) :
    (s.consume c k).Sound c.registry := by
  have hco := h.coherent k
  rw [hst] at hco
  have hreload := h.reload (k := k) (by rw [hst]; rfl)
  rw [consume_eq hst (exec_judged c k s.world claim asked report todo), World.read]
  split
  · refine hreload.stay (by rw [hst]; rfl) ⟨hco.opened, ?_, ?_, ?_⟩
    · rintro _ ⟨⟩ e i hi hheld
      refine (hco.owes asked rfl e i hi hheld).imp_left fun hmem => ?_
      have hmem : e ∈ distinct todo := mem_distinct.mpr hmem
      cases hlive : s.world.store.live? e with
      | some ent => exact .inl (mem_documents_ids.mpr ⟨hmem, by rw [hlive]; rfl⟩)
      | none => exact .inr (mem_tombstoned.mpr ⟨hmem, hlive⟩)
    · rintro _ _ _ ⟨⟩
    · rintro _ _ ⟨⟩ ⟨⟩
      show s.scene.Informed _ (Function.update s.loadedAt k s.latest k) _ _
      rw [Function.update_self]
      exact h.informed_of_read _ _ _
  · exact hreload.fail (by rw [hst]; rfl) _

/-! ### Writing the index -/

/-- A consumer that writes the index, and goes on if the call succeeds. -/
theorem write (h : s.Sound c.registry) {claim asked : Claim} {ids : List EntityId} {after : Index}
    {reached : EntityId → Prop} (hopened : (s.stage k).opened? = some claim)
    (hasked : (s.stage k).claim? = some asked)
    (hw : Scene.Overwrites (Several κ) s.scene (s.loadedAt k) asked.ids reached
      { s.scene with
        stored := (writing s.world.index ids after).2.stored?
        outdated := s.outdatedAfter k ids })
    {stage : Stage Claim} (hclaim : stage.claim? = some asked)
    (hcoherent : (writing s.world.index ids after).1 = .ok () →
      ({ s.scene with
        stored := (writing s.world.index ids after).2.stored?
        outdated := s.outdatedAfter k ids } : Scene).Coherent (Several κ) (s.loadedAt k) stage) :
    ({ s with
      outdated := s.outdatedAfter k ids
      world := { s.world with index := (writing s.world.index ids after).2 }
      stage := Function.update s.stage k
        (onward claim ((writing s.world.index ids after).1.map fun _ => stage)) } :
      Fleet κ).Sound c.registry := by
  have hothers : ∀ (stage' : Stage Claim) j, j ≠ k →
      Function.update s.stage k stage' j = s.stage j :=
    fun _ j hj => Function.update_of_ne hj ..
  cases hanswer : (writing s.world.index ids after).1 with
  | ok u =>
      refine h.withIndex (k := k) hw rfl rfl rfl (hothers stage) ?_ ?_
      · show s.world.queue.Fits fun j => (Function.update s.stage k stage j).claim?
        rw [claims_update, claims_update_self (hclaim.trans hasked.symm)]
        exact h.fits
      · show Scene.Coherent _ _ _ (Function.update s.stage k stage k)
        rw [Function.update_self]
        exact hcoherent hanswer
  | error e =>
      obtain ⟨hdeleted, hfits⟩ := h.fits_failed hopened hasked
      refine h.withIndex (k := k) hw rfl rfl rfl (hothers (.failed claim e)) ?_ ?_
      · show s.world.queue.Fits fun j => (Function.update s.stage k (.failed claim e) j).claim?
        rw [claims_update]
        exact hfits
      · show Scene.Coherent _ _ _ (Function.update s.stage k (.failed claim e) k)
        rw [Function.update_self]
        exact Scene.Coherent.failed _ _ _ hdeleted e

theorem consume_loaded (h : s.Sound c.registry) {claim asked : Claim} {report : Report} {p : Plan}
    (hst : s.stage k = .loaded claim asked report p) : (s.consume c k).Sound c.registry := by
  have hco := h.coherent k
  rw [hst] at hco
  have hasked : (s.stage k).claim? = some asked := by rw [hst]; rfl
  have hinformed := hco.informed asked p rfl rfl
  have hdoc : ∀ e ∈ p.documents.map Document.id, e ∉ s.world.index.rejected →
      ∃ d ∈ p.documents, d.id = e ∧
        (s.world.index.afterUpsert p.documents).stored? e = some (.live d) :=
    fun e he hrej => Index.stored?_afterUpsert_of_mem hrej he
  have hw := h.overwrites hasked (by rw [hst]; rfl) (p.documents.map Document.id)
    (s.world.index.afterUpsert p.documents)
    (fun e he => Index.stored?_afterUpsert_of_notMem he)
    (by
      intro e he hrej hl ent hlive
      obtain ⟨d, hd, rfl, hstored⟩ := hdoc e he hrej
      obtain ⟨ent', hlive', hupdated⟩ := hinformed.documents_current d hd hl
      rw [hlive] at hlive'
      cases hlive'
      exact ⟨d, hstored, hupdated⟩)
    (by
      rintro e he hrej hl ent hlive ⟨d', hd', hupdated⟩
      obtain ⟨d, hd, rfl, hstored⟩ := hdoc e he hrej
      rw [hstored, Option.some.injEq, Stored.live.injEq] at hd'
      exact hinformed.documents_past d hd hl ent hlive (hd' ▸ hupdated))
  rw [consume_eq hst (exec_loaded c k s.world claim asked report p)]
  refine h.write (by rw [hst]; rfl) hasked hw rfl fun hok => ?_
  exact hco.upserted hw fun e he => ⟨he, reached_of_writing_ok hok he⟩

theorem consume_upserted (h : s.Sound c.registry) {claim asked : Claim} {report : Report} {p : Plan}
    (hst : s.stage k = .upserted claim asked report p) : (s.consume c k).Sound c.registry := by
  have hco := h.coherent k
  rw [hst] at hco
  have hasked : (s.stage k).claim? = some asked := by rw [hst]; rfl
  have hinformed := hco.informed asked p rfl rfl
  have hw := h.overwrites hasked (by rw [hst]; rfl) p.tombstoned
    (s.world.index.afterTombstone p.tombstoned)
    (by
      intro e he
      rw [Index.stored?_afterTombstone, if_neg]
      rintro ⟨hmem, hrej⟩
      exact he.elim hrej (absurd hmem))
    (by
      intro e he hrej hl ent hlive
      rw [hinformed.tombstoned_current e he hl] at hlive
      cases hlive)
    (by
      rintro e he hrej hl ent hlive ⟨d, hd, -⟩
      rw [Index.stored?_afterTombstone, if_pos ⟨he, hrej⟩] at hd
      cases hd)
  rw [consume_eq hst (exec_upserted c k s.world claim asked report p)]
  refine h.write (by rw [hst]; rfl) hasked hw rfl fun hok => ?_
  exact hco.written hw fun e he => ⟨he, reached_of_writing_ok hok he⟩

/-! ### The end of a tick -/

theorem consume_written (h : s.Sound c.registry) {claim asked : Claim} {report : Report}
    (hst : s.stage k = .written claim asked report) : (s.consume c k).Sound c.registry := by
  have hco := h.coherent k
  rw [hst] at hco
  have hasked : s.claims k = some asked := by rw [claims, hst]; rfl
  -- what is deleted is of the claim, which owes nothing
  have hready : ∀ i ∈ (ready c.registry claim asked).deleted, i ∈ asked.ids := by
    intro i hi
    rcases List.mem_append.mp hi with hi | hi
    · exact h.fits.deletes_own k asked hasked i hi
    · exact of_decide_eq_true (List.mem_filter.mp hi).2
  have hgood : ∀ e i, s.scene.latest e = some i → i ∈ asked.ids → s.scene.Good (Several κ) e :=
    fun e i hi hheld => (hco.owes asked rfl e i hi hheld).resolve_left id
  have htasks : (ready c.registry claim asked).tasks = asked.tasks := rfl
  have hfits := (h.fits.restage hasked htasks hready).commitClaim (Function.update_self ..)
  rw [consume_eq hst (exec_written c k s.world claim asked report)]
  refine h.settled (k := k) hgood rfl ?_ ?_ rfl rfl ?_ ?_ ⟨_, Function.update_self ..⟩
  · exact fun t ht => (Queue.mem_commitClaim.mp ht).1
  · intro i hi
    by_cases hdel : i ∈ (ready c.registry claim asked).deleted
    · exact .inr (hready i hdel)
    · obtain ⟨t, ht, rfl⟩ := List.mem_map.mp hi
      exact .inl (List.mem_map_of_mem (Queue.mem_commitClaim.mpr ⟨ht, hdel⟩))
  · exact fun j hj => Function.update_of_ne hj ..
  · show Queue.Fits _ fun j => (Function.update s.stage k (.resting _) j).claim?
    rw [claims_update]
    rw [Function.update_idem] at hfits
    exact hfits

theorem consume_failed (h : s.Sound c.registry) {claim : Claim} {e : Error}
    (hst : s.stage k = .failed claim e) : (s.consume c k).Sound c.registry := by
  rw [consume_eq hst (exec_failed c k s.world claim e)]
  exact h.giveBack (by rw [hst]; rfl) rfl _

/-- **Consumers.**  Every step of a consumer keeps the fleet sound. -/
theorem consume (h : s.Sound c.registry) (k : κ) : (s.consume c k).Sound c.registry := by
  cases hst : s.stage k with
  | resting last => exact h.consume_resting hst
  | claimed claim => exact h.consume_claimed hst
  | sawStore claim asked primary => exact h.consume_sawStore hst
  | judged claim asked report todo => exact h.consume_judged hst
  | loaded claim asked report p => exact h.consume_loaded hst
  | upserted claim asked report p => exact h.consume_upserted hst
  | written claim asked report => exact h.consume_written hst
  | failed claim e => exact h.consume_failed hst

/-- **Crashes.**  Wherever a consumer stands, its claim may be dropped. -/
theorem crash (h : s.Sound c.registry) (k : κ) : (s.crash c k).Sound c.registry := by
  rw [Fleet.crash]
  split
  · exact h.giveBack ‹_› rfl none
  · exact h

end Sound

end Outbox.Fleet
