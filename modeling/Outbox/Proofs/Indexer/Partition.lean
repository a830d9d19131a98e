import Outbox.Enrichment
import Outbox.Proofs.Indexer.Written

/-!
# Identifiers that are live, and the others

With store and index in memory, a run that nothing stands in the way of divides its identifiers in
two, each once and in the order in which they first stand: those that are live in the store, which
then hold the document of their entity, and the others, which hold a tombstone.

* `exec_run_of_clear`, `clear_of_exec_run` — when a run succeeds, and with what;
* `sameSets_run` — the order of the store's entities is not seen in what is written;
* `run_partitions` — all of it together, with what becomes of a run that fails.
-/

namespace Outbox.Indexer

open Outbox.Memory Outbox.Reconciler Outbox.Simulation

section

variable {enrich : Transform} {registry : Registry} {limit : Int} {ids : List EntityId}
  {w w' : World Index}

/-! ### When a run succeeds -/

/-- Nothing stands in the way of a run: store and index are up, and no identifier is rejected. -/
structure Clear (ids : List EntityId) (w : World Index) : Prop where
  store : w.store.available = true
  index : w.index.available = true
  accepted : ∀ i ∈ ids, i ∉ w.index.rejected

/-- What a run has done that succeeded. -/
structure Divided (enrich : Transform) (ids : List EntityId) (w : World Index) (o : Outcome)
    (w' : World Index) : Prop where
  /-- The identifiers that are live in the store, each once and in the order in which they first
  stand. -/
  upserted : Firsts ids (fun i => (w.store.live? i).isSome = true) o.upserted
  /-- The others, in the same way. -/
  tombstoned : Firsts ids (fun i => (w.store.live? i).isNone = true) o.tombstoned
  disjoint : ∀ i ∈ o.upserted, i ∉ o.tombstoned
  exhaustive : ∀ i, i ∈ ids ↔ i ∈ o.upserted ∨ i ∈ o.tombstoned
  documents : ∀ i ∈ o.upserted, ∃ e, w.store.live? i = some e ∧
    w'.index.stored? i = some (.live ⟨i, e.updated, (enrich e (.ofEntity e)).body⟩)
  tombstones : ∀ i ∈ o.tombstoned, w'.index.stored? i = some .tombstone
  unchanged : ∀ i, i ∉ ids → w'.index.stored? i = w.index.stored? i
  /-- The documents were written by one call, or by none if there are none. -/
  upserts : w'.index.upserts = w.index.upserts ++ if o.upserted = [] then [] else [o.upserted]
  /-- So were the tombstones. -/
  tombstoning : w'.index.tombstones
    = w.index.tombstones ++ if o.tombstoned = [] then [] else [o.tombstoned]

theorem reorders_inMemory (enrich : Transform) (registry : Registry) (limit : Int) :
    Reorders (Setup.inMemory enrich registry limit).reconciler.store :=
  fun ids w => ⟨w.store.fetch ids, .refl _, exec_entities enrich registry limit w ids⟩

theorem firsts_filter (l : List EntityId) (p : EntityId → Bool) :
    Firsts l (fun i => p i = true) ((distinct l).filter p) := by
  rw [← distinct_filter]
  simpa only [Bool.decide_eq_true] using firsts_distinct_filter l fun i => p i = true

/-- What is planned over the store in memory. -/
def planned (enrich : Transform) (ids : List EntityId) (s : Store) : Plan :=
  plan enrich (distinct ids) (s.fetch (distinct ids))

theorem isPlan_planned (enrich : Transform) (ids : List EntityId) (s : Store) :
    IsPlan enrich ids s (planned enrich ids s) :=
  isPlan_of_perm (.refl _)

theorem planned_ids (enrich : Transform) (ids : List EntityId) (s : Store) :
    (planned enrich ids s).documents.map Document.id
      = (distinct ids).filter fun i => (s.live? i).isSome :=
  documents_ids enrich (distinct ids) s

/-- **A run**, over the store in memory. -/
theorem exec_run_inMemory (enrich : Transform) (registry : Registry) (limit : Int)
    (hids : ids ≠ []) :
    (run (Setup.inMemory enrich registry limit).reconciler.store
        (Setup.inMemory enrich registry limit).reconciler.index enrich ids).exec w
      = let p := planned enrich ids w.store
        if w.store.available = false then (.error (.database .poolTimedOut), w)
        else if w.index.available = false then (.error Index.down, w)
        else match w.index.verdict (p.documents.map Document.id) with
          | .error e => (.error e, { w with index := withDocuments w.index p })
          | .ok () => ((w.index.verdict p.tombstoned).map fun _ =>
                ⟨p.documents.map Document.id, p.tombstoned⟩,
              { w with index := withTombstones (withDocuments w.index p) p }) :=
  exec_run enrich registry limit (.refl _) (exec_entities enrich registry limit w _) hids

/-- The outcome of a run that nothing stands in the way of. -/
def expected (ids : List EntityId) (s : Store) : Outcome :=
  ⟨(distinct ids).filter fun i => (s.live? i).isSome,
    (distinct ids).filter fun i => (s.live? i).isNone⟩

/-- **A run succeeds** if nothing stands in its way, or if there is nothing to do. -/
theorem exec_run_of_clear (enrich : Transform) (registry : Registry) (limit : Int)
    (h : ids ≠ [] → Clear ids w) :
    (run (Setup.inMemory enrich registry limit).reconciler.store
        (Setup.inMemory enrich registry limit).reconciler.index enrich ids).exec w
      = let p := planned enrich ids w.store
        (.ok (expected ids w.store),
          { w with index := withTombstones (withDocuments w.index p) p }) := by
  by_cases hids : ids = []
  · subst hids
    rfl
  obtain ⟨hstore, hindex, hall⟩ := h hids
  have hplan := isPlan_planned enrich ids w.store
  have hdocs := hplan.accepted.mpr fun i hi _ => hall i hi
  have htombs := Index.verdict_eq_ok_iff.mpr fun i hi => hall i (hplan.mem_tombstoned.mp hi).1
  rw [exec_run_inMemory enrich registry limit hids]
  dsimp only
  rw [if_neg (by simp [hstore]), if_neg (by simp [hindex]), hdocs]
  dsimp only
  rw [htombs, planned_ids, hplan.tombstoned]
  rfl

/-- Nothing stood in the way of a run that succeeded. -/
theorem clear_of_exec_run {o : Outcome} (hids : ids ≠ [])
    (h : ((run (Setup.inMemory enrich registry limit).reconciler.store
      (Setup.inMemory enrich registry limit).reconciler.index enrich ids).exec w).1 = .ok o) :
    Clear ids w := by
  rw [exec_run_inMemory enrich registry limit hids] at h
  have hplan := isPlan_planned enrich ids w.store
  dsimp only at h
  split at h
  · cases h
  rename_i hstore
  split at h
  · cases h
  rename_i hindex
  split at h
  · cases h
  rename_i hdocs
  rw [Bool.not_eq_false] at hstore hindex
  refine ⟨hstore, hindex, fun i hi => ?_⟩
  cases hlive : w.store.live? i with
  | some e => exact hplan.accepted.mp hdocs i hi (by rw [hlive]; rfl)
  | none =>
      cases htombs : w.index.verdict (planned enrich ids w.store).tombstoned with
      | error e =>
          rw [htombs] at h
          cases h
      | ok u =>
          exact Index.verdict_eq_ok_iff.mp htombs i (hplan.mem_tombstoned.mpr ⟨hi, hlive⟩)

/-- **What has been done** by a run that succeeded. -/
theorem divided_of_clear (enrich : Transform) (registry : Registry) (limit : Int)
    (h : ids ≠ [] → Clear ids w) :
    Divided enrich ids w (expected ids w.store)
      ((run (Setup.inMemory enrich registry limit).reconciler.store
        (Setup.inMemory enrich registry limit).reconciler.index enrich ids).exec w).2 := by
  have hleaves := leaves_run (reorders_inMemory enrich registry limit) enrich registry limit ids w
  have hreached : ∀ i ∈ ids, Reached ids w i := by
    intro i hi
    obtain ⟨hstore, hindex, hall⟩ := h (List.ne_nil_of_mem hi)
    exact ⟨hstore, hindex, hi, hall i hi, fun _ j hj _ => hall j hj⟩
  have hupserted := firsts_filter ids fun i => (w.store.live? i).isSome
  have htombstoned := firsts_filter ids fun i => (w.store.live? i).isNone
  refine ⟨hupserted, htombstoned, fun i hi hi' => ?_, fun i => ?_, fun i hi => ?_, fun i hi => ?_,
    fun i hi => hleaves.others i fun hr => hi hr.mem, ?_, ?_⟩
  · have hlive := ((hupserted.mem_iff i).mp hi).2
    have hnone := ((htombstoned.mem_iff i).mp hi').2
    rw [Option.isNone_iff_eq_none.mp hnone] at hlive
    cases hlive
  · rw [show i ∈ (expected ids w.store).upserted ↔ _ from hupserted.mem_iff i,
      show i ∈ (expected ids w.store).tombstoned ↔ _ from htombstoned.mem_iff i]
    cases w.store.live? i with
    | none => simp
    | some e => simp
  · obtain ⟨hi, hlive⟩ := (hupserted.mem_iff i).mp hi
    obtain ⟨e, he⟩ := Option.isSome_iff_exists.mp hlive
    refine ⟨e, he, (hleaves.reached i (hreached i hi)).trans ?_⟩
    rw [wanted, he, ← Store.id_of_live? he]
    rfl
  · obtain ⟨hi, hnone⟩ := (htombstoned.mem_iff i).mp hi
    rw [hleaves.reached i (hreached i hi), wanted, Option.isNone_iff_eq_none.mp hnone]
  · rw [exec_run_of_clear enrich registry limit h]
    simp [expected, planned_ids]
  · rw [exec_run_of_clear enrich registry limit h]
    simp [expected, (isPlan_planned enrich ids w.store).tombstoned]

/-! ### Other orders -/

/-- Two outcomes that differ in the order of documents at most. -/
inductive Similar : Except Error Outcome → Except Error Outcome → Prop
  | written {o o' : Outcome} (upserted : o'.upserted.Perm o.upserted)
      (tombstoned : o'.tombstoned = o.tombstoned) : Similar (.ok o) (.ok o')
  | rejected {failed failed' : List EntityId} (perm : failed'.Perm failed) :
      Similar (.error (.partialBatchFailure failed)) (.error (.partialBatchFailure failed'))
  | failed (e : Error) : Similar (.error e) (.error e)

theorem Similar.refl (x : Except Error Outcome) : Similar x x := by
  cases x with
  | ok o => exact .written (.refl _) rfl
  | error e => exact .failed e

/-- Two ways a run can end that differ in the order of documents at most. -/
structure SameSets (once other : Except Error Outcome × World Index) : Prop where
  outcome : Similar once.1 other.1
  /-- Call by call, documents are written for the same identifiers. -/
  upserts : List.Forall₂ List.Perm other.2.index.upserts once.2.index.upserts
  tombstones : other.2.index.tombstones = once.2.index.tombstones
  stored : ∀ i, other.2.index.stored? i = once.2.index.stored? i

/-- What is answered does not depend on the order of a batch, but for the order of what is
rejected. -/
theorem verdict_of_perm {x : Index} {l l' : List EntityId} (h : l'.Perm l) :
    (x.verdict l = .ok () ∧ x.verdict l' = .ok ()) ∨
      ∃ failed failed', failed'.Perm failed ∧ x.verdict l = .error (.partialBatchFailure failed) ∧
        x.verdict l' = .error (.partialBatchFailure failed') := by
  have hrefused : (x.refused l').Perm (x.refused l) := h.filter _
  rw [Index.verdict, Index.verdict]
  cases hl : x.refused l with
  | nil =>
      rw [hl] at hrefused
      rw [hrefused.eq_nil]
      exact .inl ⟨rfl, rfl⟩
  | cons i failed =>
      cases hl' : x.refused l' with
      | nil =>
          rw [hl, hl'] at hrefused
          cases hrefused.symm.eq_nil
      | cons j failed' =>
          rw [hl, hl'] at hrefused
          exact .inr ⟨_, _, hrefused, rfl, rfl⟩

/-- A call for no identifiers is no call in any order. -/
theorem rel_call {l l' : List EntityId} (h : l'.Perm l) :
    List.Forall₂ List.Perm (if l' = [] then [] else [l']) (if l = [] then [] else [l]) := by
  by_cases hl : l = []
  · subst hl
    rw [if_pos rfl, if_pos h.eq_nil]
    exact .nil
  · have hl' : l' ≠ [] := by
      rintro rfl
      exact hl h.symm.eq_nil
    rw [if_neg hl, if_neg hl']
    exact .cons h .nil

/-- **The order that a store keeps to** is not seen in what is written, but for the order of
documents. -/
theorem sameSets_run {store store' : PrimaryStore (World Index)} (hstore : Reorders store)
    (hstore' : Reorders store') (enrich : Transform) (registry : Registry) (limit : Int)
    (ids : List EntityId) (w : World Index) :
    let index := (Setup.inMemory enrich registry limit).reconciler.index
    SameSets ((run store index enrich ids).exec w) ((run store' index enrich ids).exec w) := by
  have hleaves := leaves_run hstore enrich registry limit ids w
  have hleaves' := leaves_run hstore' enrich registry limit ids w
  -- what is held is settled by what a run leaves behind; the rest goes by the cases of `exec_run`
  suffices h : Similar _ _ ∧ List.Forall₂ List.Perm _ _ ∧ _ = _ from
    ⟨h.1, h.2.1, h.2.2, fun i => hleaves.unique hleaves'⟩
  clear hleaves hleaves'
  have hsame : ∀ l : List (List EntityId), List.Forall₂ List.Perm l l :=
    fun l => List.forall₂_same.mpr fun ids _ => .refl ids
  by_cases hids : ids = []
  · subst hids
    exact ⟨.refl _, hsame _, rfl⟩
  obtain ⟨found, hfound, hentities⟩ := hstore (distinct ids) w
  obtain ⟨found', hfound', hentities'⟩ := hstore' (distinct ids) w
  rw [exec_run enrich registry limit hfound hentities hids,
    exec_run enrich registry limit hfound' hentities' hids]
  have hplan : IsPlan enrich ids w.store (plan enrich (distinct ids) found) := isPlan_of_perm hfound
  have hplan' : IsPlan enrich ids w.store (plan enrich (distinct ids) found') :=
    isPlan_of_perm hfound'
  generalize plan enrich (distinct ids) found = p at hplan
  generalize plan enrich (distinct ids) found' = p' at hplan'
  have hperm : (p'.documents.map Document.id).Perm (p.documents.map Document.id) :=
    hplan'.live.trans hplan.live.symm
  have htombs : p'.tombstoned = p.tombstoned := hplan'.tombstoned.trans hplan.tombstoned.symm
  have hupserts : List.Forall₂ List.Perm (withDocuments w.index p').upserts
      (withDocuments w.index p).upserts := by
    rw [upserts_withDocuments, upserts_withDocuments]
    exact List.rel_append (hsame _) (rel_call hperm)
  dsimp only
  split
  · exact ⟨.refl _, hsame _, rfl⟩
  split
  · exact ⟨.refl _, hsame _, rfl⟩
  cases verdict_of_perm (x := w.index) hperm with
  | inl h =>
      rw [h.1, h.2, htombs]
      refine ⟨?_, ?_, ?_⟩
      · cases w.index.verdict p.tombstoned with
        | ok u => exact .written hperm rfl
        | error e => exact .failed e
      · rw [upserts_withTombstones, upserts_withTombstones]
        exact hupserts
      · rw [tombstones_withTombstones, tombstones_withTombstones, tombstones_withDocuments,
          tombstones_withDocuments, htombs]
  | inr h =>
      obtain ⟨failed, failed', hfailed, h, h'⟩ := h
      rw [h, h']
      refine ⟨.rejected hfailed, hupserts, ?_⟩
      rw [tombstones_withDocuments, tombstones_withDocuments]

/-! ### All of it -/

/-- What is answered depends on store and index, but not on what the index holds. -/
theorem outcome_congr (enrich : Transform) (registry : Registry) (limit : Int)
    (h : Leaves enrich ids w w') :
    let r := (Setup.inMemory enrich registry limit).reconciler
    ((run r.store r.index enrich ids).exec w').1 = ((run r.store r.index enrich ids).exec w).1 := by
  by_cases hids : ids = []
  · subst hids
    rfl
  have hstore : w'.store = w.store := by rw [h.frame]
  have hindex : w'.index.available = w.index.available := by rw [h.frame]
  have hverdict : ∀ l, w'.index.verdict l = w.index.verdict l := by
    intro l
    rw [h.frame, Index.verdict, Index.verdict]
    rfl
  dsimp only
  rw [exec_run_inMemory enrich registry limit hids, exec_run_inMemory enrich registry limit hids]
  dsimp only
  rw [hstore, hindex, hverdict, hverdict]
  split
  · rfl
  split
  · rfl
  split
  · rfl
  · rfl

/-- With the store or the index down nothing happens. -/
theorem state_run_of_down (enrich : Transform) (registry : Registry) (limit : Int)
    (h : w.store.available = false ∨ w.index.available = false) :
    let r := (Setup.inMemory enrich registry limit).reconciler
    ((run r.store r.index enrich ids).exec w).2 = w := by
  by_cases hids : ids = []
  · subst hids
    rfl
  dsimp only
  rw [exec_run_inMemory enrich registry limit hids]
  dsimp only
  split
  · rfl
  · rename_i hup
    rw [if_pos (h.resolve_left hup)]

/-- A rejected document keeps the tombstones from being written. -/
theorem tombstones_of_rejected (enrich : Transform) (registry : Registry) (limit : Int)
    {i : EntityId} (hi : i ∈ ids) (hlive : (w.store.live? i).isSome = true)
    (hrejected : i ∈ w.index.rejected) :
    let r := (Setup.inMemory enrich registry limit).reconciler
    ((run r.store r.index enrich ids).exec w).2.index.tombstones = w.index.tombstones := by
  dsimp only
  rw [exec_run_inMemory enrich registry limit (List.ne_nil_of_mem hi)]
  dsimp only
  split
  · rfl
  split
  · rfl
  split
  · exact tombstones_withDocuments _ _
  · rename_i hverdict
    have haccepted := (isPlan_planned enrich ids w.store).accepted.mp hverdict
    exact absurd hrejected (haccepted i hi hlive)

/-- What a run of a reconciler in memory does (`once`), what it does when it is made again (`twice`),
and what one does over a store that keeps to another order (`other`). -/
structure Partitions (r : Reconciler (World Index) Claim) (ids : List EntityId) (w : World Index)
    (once twice other : Except Error Outcome × World Index) : Prop where
  succeeds : (∃ o, once.1 = .ok o) ↔ (ids ≠ [] → Clear ids w)
  divided : ∀ o, once.1 = .ok o → Divided r.enrich ids w o once.2
  /-- One read and at most one call of each kind, none of which is empty or follows a failure. -/
  calls : Keeps r (Sparing ids) (run r.logged.store r.logged.index r.enrich ids)
    (run r.store r.index r.enrich ids) w
  unread : w.store.available = false → once.2 = w
  down : w.index.available = false → once.2 = w
  /-- Where a document is rejected, there are no tombstones. -/
  rejected : (∃ i ∈ ids, (w.store.live? i).isSome = true ∧ i ∈ w.index.rejected) →
    once.2.index.tombstones = w.index.tombstones ∧
      ∀ i, w.store.live? i = none → once.2.index.stored? i = w.index.stored? i
  others : ∀ i, i ∉ ids → once.2.index.stored? i = w.index.stored? i
  again : twice.1 = once.1 ∧ ∀ i, twice.2.index.stored? i = once.2.index.stored? i
  reordered : SameSets once other

/-- **Identifiers that are live, and the others.** -/
theorem run_partitions (enrich : Transform) (registry : Registry) (limit : Int)
    (ids : List EntityId) (w : World Index) {store : PrimaryStore (World Index)}
    (hstore : Reorders store) :
    let r := (Setup.inMemory enrich registry limit).reconciler
    let once := (run r.store r.index enrich ids).exec w
    Partitions r ids w once ((run r.store r.index enrich ids).exec once.2)
      ((run store r.index enrich ids).exec w) := by
  intro r once
  have hleaves : Leaves enrich ids w once.2 := leaves_run (reorders_inMemory enrich registry limit)
    enrich registry limit ids w
  have hclear : ∀ o, once.1 = .ok o → ids ≠ [] → Clear ids w :=
    fun o ho hids => clear_of_exec_run hids ho
  constructor
  case succeeds =>
    refine ⟨fun ⟨o, ho⟩ => hclear o ho, fun h => ⟨expected ids w.store, ?_⟩⟩
    exact congrArg Prod.fst (exec_run_of_clear enrich registry limit h)
  case divided =>
    intro o ho
    have hexpected := congrArg Prod.fst (exec_run_of_clear enrich registry limit (hclear o ho))
    obtain rfl : o = expected ids w.store := Except.ok.inj (ho.symm.trans hexpected)
    exact divided_of_clear enrich registry limit (hclear _ ho)
  case calls => exact keeps_sparing r ids w
  case unread => exact fun hdown => state_run_of_down enrich registry limit (.inl hdown)
  case down => exact fun hdown => state_run_of_down enrich registry limit (.inr hdown)
  case rejected =>
    rintro ⟨i, hi, hlive, hrejected⟩
    refine ⟨tombstones_of_rejected enrich registry limit hi hlive hrejected, fun j hj => ?_⟩
    exact hleaves.others j fun hr => hr.documents hj i hi hlive hrejected
  case others => exact fun i hi => hleaves.others i fun hr => hi hr.mem
  case again =>
    refine ⟨outcome_congr enrich registry limit hleaves, fun i => hleaves.again ?_⟩
    exact leaves_run (reorders_inMemory enrich registry limit) enrich registry limit ids once.2
  case reordered =>
    exact sameSets_run (reorders_inMemory enrich registry limit) hstore enrich registry limit ids w

/-- A store that gives its entities the other way round. -/
def reversing {σ : Type} (store : PrimaryStore σ) : PrimaryStore σ :=
  { store with entities := fun ids => do
      let found ← store.entities ids
      pure found.reverse }

theorem reorders_reversing (enrich : Transform) (registry : Registry) (limit : Int) :
    Reorders (reversing (Setup.inMemory enrich registry limit).reconciler.store) := by
  refine fun ids w => ⟨(w.store.fetch ids).reverse, List.reverse_perm _, ?_⟩
  show (_ >>= _ : Action (World Index) (List Entity)).exec w = _
  rw [Action.exec_bind, exec_entities, World.read, World.read]
  cases w.store.available with
  | true => rfl
  | false => rfl

/-- Two live entities, of which the index holds an older document of the first, and one that is
flagged as deleted; the index holds a document of nobody, too. -/
def divisible : World Index :=
  let entity n := EntityId.mk (.ofNat n)
  let store := (Store.empty.putLive (entity 1) ⟨7, 0⟩ .null).putLive (entity 2) ⟨8, 0⟩ .null
  { World.start ⟨0, 0⟩ ((Index.empty.seed ⟨entity 1, ⟨6, 0⟩, []⟩).seed ⟨entity 5, ⟨6, 0⟩, []⟩) with
    store := (store.markDeleted (entity 2)).putLive (entity 4) ⟨9, 0⟩ .null }

theorem run_partitions_divisible :
    let ids := [3, 1, 2, 1, 4, 3].map fun n => EntityId.mk (.ofNat n)
    let r := (Setup.inMemory Enrichment.relabel Registry.standard 5).reconciler
    let once := (run r.store r.index r.enrich ids).exec divisible
    let twice := (run r.store r.index r.enrich ids).exec once.2
    let other := (run (reversing r.store) r.index r.enrich ids).exec divisible
    Partitions r ids divisible once twice other ∧
      once.1 = .ok ⟨[1, 4].map fun n => ⟨.ofNat n⟩, [3, 2].map fun n => ⟨.ofNat n⟩⟩ ∧
      other.1 = .ok ⟨[4, 1].map fun n => ⟨.ofNat n⟩, [3, 2].map fun n => ⟨.ofNat n⟩⟩ := by
  intro ids r once twice other
  refine ⟨?_, by decide +kernel, by decide +kernel⟩
  exact run_partitions Enrichment.relabel Registry.standard 5 ids divisible
    (reorders_reversing Enrichment.relabel Registry.standard 5)

end

end Outbox.Indexer
