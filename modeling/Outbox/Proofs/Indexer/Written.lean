import Outbox.Proofs.Indexer.Calls
import Outbox.Proofs.Simulation.Services

/-!
# What a run over store and index in memory leaves behind

Identifiers that are live in the store get the document of their entity, and the others a tombstone.
What an identifier holds afterwards (`wanted`) depends on the store alone, not on what was held before,
nor on the order in which the store gives its entities.

* `IsPlan` — what is planned, whatever order the store keeps to;
* `stored?_withDocuments`, `stored?_withTombstones` — what is held after each of the two calls;
* `exec_run` — the run, by what the index answers;
* `Leaves.of_rejected`, `Leaves.of_accepted` — what is left behind in either case;
* `leaves_run` — what is reached holds what it is to hold, and nothing else changes, also where the
  run fails.
-/

namespace Outbox.Indexer

open Outbox.Memory Outbox.Reconciler Outbox.Simulation

/-! ### What is planned -/

/-- A plan for some identifiers, each of them once: documents for those that are live, in any order,
and tombstones for the others. -/
structure IsPlan (enrich : Transform) (ids : List EntityId) (s : Store) (p : Plan) : Prop where
  documents : ∀ d ∈ p.documents, ∃ e, s.live? d.id = some e ∧ d = document enrich e
  live : (p.documents.map Document.id).Perm ((distinct ids).filter fun i => (s.live? i).isSome)
  tombstoned : p.tombstoned = (distinct ids).filter fun i => (s.live? i).isNone

variable {enrich : Transform} {ids : List EntityId} {s : Store} {p : Plan}

/-- **Planning.**  The order in which the store gives its entities matters for the order of the
documents only. -/
theorem isPlan_of_perm {found : List Entity} (h : found.Perm (s.fetch (distinct ids))) :
    IsPlan enrich ids s (plan enrich (distinct ids) found) := by
  have hdocs : (plan enrich (distinct ids) found).documents.Perm
      (plan enrich (distinct ids) (s.fetch (distinct ids))).documents := (h.filter _).map _
  have hids : ((plan enrich (distinct ids) found).documents.map Document.id).Perm
      ((distinct ids).filter fun i => (s.live? i).isSome) := by
    rw [← documents_ids enrich (distinct ids) s]
    exact hdocs.map _
  refine ⟨fun d hd => ?_, hids, ?_⟩
  · obtain ⟨i, -, e, he, rfl⟩ := mem_documents.mp (hdocs.mem_iff.mp hd)
    rw [document_id, Store.id_of_live? he]
    exact ⟨e, he, rfl⟩
  · have hplan : (plan enrich (distinct ids) found).tombstoned = (distinct ids).filter fun i =>
        i ∉ (plan enrich (distinct ids) found).documents.map Document.id := by
      rw [plan, List.map_map]
      rfl
    rw [hplan]
    refine List.filter_congr fun i hi => ?_
    have hmem : i ∈ (plan enrich (distinct ids) found).documents.map Document.id ↔
        (s.live? i).isSome = true := by
      rw [hids.mem_iff, List.mem_filter, and_iff_right hi]
    rw [decide_eq_decide.mpr (not_congr hmem), decide_not, Bool.decide_eq_true, Option.not_isSome]

namespace IsPlan

variable (h : IsPlan enrich ids s p)

include h

theorem mem_documents_ids {i : EntityId} :
    i ∈ p.documents.map Document.id ↔ i ∈ ids ∧ (s.live? i).isSome = true := by
  rw [h.live.mem_iff, List.mem_filter, mem_distinct]

theorem mem_tombstoned {i : EntityId} : i ∈ p.tombstoned ↔ i ∈ ids ∧ s.live? i = none := by
  rw [h.tombstoned, List.mem_filter, mem_distinct, Option.isNone_iff_eq_none]

/-- Where there is an identifier, something is planned. -/
theorem ne_nil (hids : ids ≠ []) : p.documents ≠ [] ∨ p.tombstoned ≠ [] := by
  obtain ⟨i, hi⟩ := List.exists_mem_of_ne_nil _ hids
  cases hlive : s.live? i with
  | some e =>
      have hmem := h.mem_documents_ids.mpr ⟨hi, by rw [hlive]; rfl⟩
      exact .inl fun hnil => by simp [hnil] at hmem
  | none => exact .inr (List.ne_nil_of_mem (h.mem_tombstoned.mpr ⟨hi, hlive⟩))

end IsPlan

/-! ### What is held afterwards -/

/-- What an identifier is to hold. -/
def wanted (enrich : Transform) (s : Store) (i : EntityId) : Stored :=
  match s.live? i with
  | some e => .live (document enrich e)
  | none => .tombstone

/-- The index after the documents of a plan were written, where there are any. -/
def withDocuments (x : Index) (p : Plan) : Index :=
  if p.documents = [] then x else x.afterUpsert p.documents

/-- The index after the tombstones of a plan were written, where there are any. -/
def withTombstones (x : Index) (p : Plan) : Index :=
  if p.tombstoned = [] then x else x.afterTombstone p.tombstoned

/-- **Documents** are for what is live. -/
theorem stored?_withDocuments (h : IsPlan enrich ids s p) (x : Index) (i : EntityId) :
    (withDocuments x p).stored? i
      = if i ∈ ids ∧ (s.live? i).isSome = true ∧ i ∉ x.rejected then some (wanted enrich s i)
        else x.stored? i := by
  have hmem := h.mem_documents_ids (i := i)
  rw [withDocuments]
  split
  · rename_i hnil
    rw [hnil, List.map_nil] at hmem
    rw [if_neg fun hi => List.not_mem_nil (hmem.mpr ⟨hi.1, hi.2.1⟩)]
  · split
    · rename_i hi
      obtain ⟨d, hd, hid, hstored⟩ :=
        Index.stored?_afterUpsert_of_mem hi.2.2 (hmem.mpr ⟨hi.1, hi.2.1⟩)
      obtain ⟨e, he, rfl⟩ := h.documents d hd
      rw [hid] at he
      rw [hstored, wanted, he]
    · rename_i hi
      refine Index.stored?_afterUpsert_of_notMem ?_
      rw [hmem]
      by_contra hnot
      rw [not_or, not_not] at hnot
      exact hi ⟨hnot.2.1, hnot.2.2, hnot.1⟩

/-- **Tombstones** are for the others. -/
theorem stored?_withTombstones (h : IsPlan enrich ids s p) (x : Index) (i : EntityId) :
    (withTombstones x p).stored? i
      = if i ∈ ids ∧ s.live? i = none ∧ i ∉ x.rejected then some (wanted enrich s i)
        else x.stored? i := by
  have hmem := h.mem_tombstoned (i := i)
  have hheld : (withTombstones x p).stored? i
      = if i ∈ p.tombstoned ∧ i ∉ x.rejected then some .tombstone else x.stored? i := by
    rw [withTombstones]
    split
    · rename_i hnil
      rw [hnil, if_neg fun hi => List.not_mem_nil hi.1]
    · exact Index.stored?_afterTombstone x p.tombstoned i
  have hiff : (i ∈ p.tombstoned ∧ i ∉ x.rejected) ↔
      i ∈ ids ∧ s.live? i = none ∧ i ∉ x.rejected := by
    rw [hmem, and_assoc]
  rw [hheld]
  refine if_ctx_congr hiff (fun hi => ?_) fun _ => rfl
  rw [wanted, hi.2.1]

@[simp] theorem rejected_withDocuments (x : Index) (p : Plan) :
    (withDocuments x p).rejected = x.rejected := by
  rw [withDocuments]
  split
  · rfl
  · rfl

@[simp] theorem available_withDocuments (x : Index) (p : Plan) :
    (withDocuments x p).available = x.available := by
  rw [withDocuments]
  split
  · rfl
  · rfl

@[simp] theorem rejected_withTombstones (x : Index) (p : Plan) :
    (withTombstones x p).rejected = x.rejected := by
  rw [withTombstones]
  split
  · rfl
  · rfl

@[simp] theorem available_withTombstones (x : Index) (p : Plan) :
    (withTombstones x p).available = x.available := by
  rw [withTombstones]
  split
  · rfl
  · rfl

@[simp] theorem upserts_withDocuments (x : Index) (p : Plan) : (withDocuments x p).upserts
    = x.upserts ++
        if p.documents.map Document.id = [] then [] else [p.documents.map Document.id] := by
  rw [withDocuments]
  cases p.documents with
  | nil => exact (List.append_nil _).symm
  | cons d docs => rfl

@[simp] theorem tombstones_withDocuments (x : Index) (p : Plan) :
    (withDocuments x p).tombstones = x.tombstones := by
  rw [withDocuments]
  split
  · rfl
  · rfl

@[simp] theorem upserts_withTombstones (x : Index) (p : Plan) :
    (withTombstones x p).upserts = x.upserts := by
  rw [withTombstones]
  split
  · rfl
  · rfl

@[simp] theorem tombstones_withTombstones (x : Index) (p : Plan) : (withTombstones x p).tombstones
    = x.tombstones ++ if p.tombstoned = [] then [] else [p.tombstoned] := by
  rw [withTombstones]
  split
  · rw [List.append_nil]
  · rfl

/-- **Both calls together.**  What is held before does not count for identifiers that are taken. -/
theorem stored?_written (h : IsPlan enrich ids s p) (x : Index) (i : EntityId) :
    (withTombstones (withDocuments x p) p).stored? i
      = if i ∈ ids ∧ i ∉ x.rejected then some (wanted enrich s i) else x.stored? i := by
  rw [stored?_withTombstones h, stored?_withDocuments h, rejected_withDocuments]
  cases s.live? i with
  | none => simp
  | some e => simp

/-! ### A run -/

/-- A store that gives the entities which the store in memory gives, in some order. -/
def Reorders (store : PrimaryStore (World Index)) : Prop :=
  ∀ ids w, ∃ found : List Entity, found.Perm (w.store.fetch ids) ∧
    (store.entities ids).exec w = (w.read found, w)

section

variable (enrich : Transform) (registry : Registry) (limit : Int) {w : World Index}

/-- The documents of a plan are written by one call, or by none if there are none. -/
theorem exec_writeDocuments (p : Plan) (hup : w.index.available = true) :
    (if !p.documents.isEmpty then
        (Setup.inMemory enrich registry limit).reconciler.index.upsert p.documents
      else pure ()).exec w
      = (w.index.verdict (p.documents.map Document.id),
          { w with index := withDocuments w.index p }) := by
  rw [withDocuments]
  cases hdocs : p.documents with
  | nil => rfl
  | cons d docs =>
      have hcall := exec_indexUpsert enrich registry limit w (d :: docs)
      rw [if_pos hup] at hcall
      exact hcall

/-- So are the tombstones. -/
theorem exec_writeTombstones (p : Plan) (hup : w.index.available = true) :
    (if !p.tombstoned.isEmpty then
        (Setup.inMemory enrich registry limit).reconciler.index.tombstone p.tombstoned
      else pure ()).exec w
      = (w.index.verdict p.tombstoned, { w with index := withTombstones w.index p }) := by
  rw [withTombstones]
  cases htombs : p.tombstoned with
  | nil => rfl
  | cons i ids =>
      have hcall := exec_indexTombstone enrich registry limit w (i :: ids)
      rw [if_pos hup] at hcall
      exact hcall

/-- **Writing a plan.**  A rejected document keeps the tombstones from being written. -/
theorem exec_write (p : Plan) (hup : w.index.available = true) :
    (write (Setup.inMemory enrich registry limit).reconciler.index p).exec w
      = match w.index.verdict (p.documents.map Document.id) with
        | .error e => (.error e, { w with index := withDocuments w.index p })
        | .ok () => (w.index.verdict p.tombstoned,
            { w with index := withTombstones (withDocuments w.index p) p }) := by
  rw [write_eq, Action.exec_bind, exec_writeDocuments enrich registry limit p hup]
  cases w.index.verdict (p.documents.map Document.id) with
  | error e => rfl
  | ok u =>
      have hup' : (withDocuments w.index p).available = true := by
        rw [available_withDocuments, hup]
      have htombs := exec_writeTombstones enrich registry limit
        (w := { w with index := withDocuments w.index p }) p hup'
      have hverdict : (withDocuments w.index p).verdict p.tombstoned
          = w.index.verdict p.tombstoned := by
        rw [Index.verdict, Index.verdict, Index.refused, Index.refused, rejected_withDocuments]
      exact htombs.trans (congrArg (fun x => (x, _)) hverdict)

/-- With the index down, nothing is written. -/
theorem exec_write_of_down (p : Plan) (hp : p.documents ≠ [] ∨ p.tombstoned ≠ [])
    (hdown : w.index.available = false) :
    (write (Setup.inMemory enrich registry limit).reconciler.index p).exec w
      = (.error Index.down, w) := by
  have hcalls := exec_indexUpsert enrich registry limit w p.documents
  have hcalls' := exec_indexTombstone enrich registry limit w p.tombstoned
  rw [hdown, if_neg Bool.false_ne_true] at hcalls hcalls'
  rw [write_eq]
  cases hdocs : p.documents with
  | cons d docs =>
      rw [hdocs] at hcalls
      exact Action.exec_bind_error hcalls _
  | nil =>
      cases htombs : p.tombstoned with
      | cons i ids =>
          rw [htombs] at hcalls'
          exact (Action.exec_bind_ok rfl _).trans hcalls'
      | nil => exact absurd htombs (hp.resolve_left fun h => h hdocs)

/-- **A run**, over a store that keeps to any order. -/
theorem exec_run {store : PrimaryStore (World Index)} {found : List Entity}
    (hfound : found.Perm (w.store.fetch (distinct ids)))
    (hentities : (store.entities (distinct ids)).exec w = (w.read found, w)) (hids : ids ≠ []) :
    (run store (Setup.inMemory enrich registry limit).reconciler.index enrich ids).exec w
      = let p := plan enrich (distinct ids) found
        if w.store.available = false then (.error (.database .poolTimedOut), w)
        else if w.index.available = false then (.error Index.down, w)
        else match w.index.verdict (p.documents.map Document.id) with
          | .error e => (.error e, { w with index := withDocuments w.index p })
          | .ok () => ((w.index.verdict p.tombstoned).map fun _ =>
                ⟨p.documents.map Document.id, p.tombstoned⟩,
              { w with index := withTombstones (withDocuments w.index p) p }) := by
  have hne : (distinct ids).isEmpty = false := by
    obtain ⟨i, hi⟩ := List.exists_mem_of_ne_nil _ hids
    exact List.isEmpty_eq_false_iff.mpr (List.ne_nil_of_mem (mem_distinct.mpr hi))
  rw [run, hne]
  show (store.entities (distinct ids) >>= _ : Action (World Index) Outcome).exec w = _
  by_cases hstore : w.store.available = false
  · rw [World.read, hstore] at hentities
    rw [if_pos hstore]
    exact Action.exec_bind_error hentities _
  · rw [if_neg hstore]
    rw [Bool.not_eq_false] at hstore
    rw [World.read, if_pos hstore] at hentities
    refine (Action.exec_bind_ok hentities _).trans ?_
    let p := plan enrich (distinct ids) found
    show (write _ p >>= fun _ => pure (⟨p.documents.map Document.id, p.tombstoned⟩ : Outcome)).exec w
      = _
    rw [Action.exec_bind_pure]
    by_cases hindex : w.index.available = false
    · rw [if_pos hindex, exec_write_of_down enrich registry limit p
        ((isPlan_of_perm hfound).ne_nil hids) hindex]
      rfl
    · rw [if_neg hindex, exec_write enrich registry limit p (Bool.not_eq_false _ ▸ hindex)]
      show _ = match w.index.verdict (p.documents.map Document.id) with
        | .error e => _
        | .ok () => _
      cases w.index.verdict (p.documents.map Document.id) with
      | error e => rfl
      | ok u => rfl

end

/-! ### What a run comes to -/

section

variable {registry : Registry} {limit : Int} {w w' : World Index}

/-- A run gets as far as an identifier: store and index are up, the index takes the identifier, and if
a tombstone is for it, takes all documents that come before. -/
structure Reached (ids : List EntityId) (w : World Index) (i : EntityId) : Prop where
  store : w.store.available = true
  index : w.index.available = true
  mem : i ∈ ids
  accepted : i ∉ w.index.rejected
  documents : w.store.live? i = none →
    ∀ j ∈ ids, (w.store.live? j).isSome = true → j ∉ w.index.rejected

/-- What a run leaves behind, whatever came of it. -/
structure Leaves (enrich : Transform) (ids : List EntityId) (w w' : World Index) : Prop where
  /-- Nothing is touched but the index, and there nothing but what is held and which calls were
  made. -/
  frame : w' = { w with index := { w.index with
    documents := w'.index.documents
    upserts := w'.index.upserts
    tombstones := w'.index.tombstones } }
  /-- What was reached holds what it is to hold. -/
  reached : ∀ i, Reached ids w i → w'.index.stored? i = some (wanted enrich w.store i)
  /-- All others hold what they held. -/
  others : ∀ i, ¬Reached ids w i → w'.index.stored? i = w.index.stored? i

theorem Leaves.refl (h : ∀ i, ¬Reached ids w i) : Leaves enrich ids w w :=
  ⟨rfl, fun i hi => absurd hi (h i), fun _ _ => rfl⟩

/-- The documents of a plan are accepted if none of them is rejected. -/
theorem IsPlan.accepted (h : IsPlan enrich ids w.store p) :
    w.index.verdict (p.documents.map Document.id) = .ok () ↔
      ∀ i ∈ ids, (w.store.live? i).isSome = true → i ∉ w.index.rejected := by
  rw [Index.verdict_eq_ok_iff]
  constructor
  · exact fun hall i hi hlive => hall i (h.mem_documents_ids.mpr ⟨hi, hlive⟩)
  · intro hall i hi
    obtain ⟨hi, hlive⟩ := h.mem_documents_ids.mp hi
    exact hall i hi hlive

namespace Leaves

/-- What a run may touch of the index is all but what it rejects and whether it is up. -/
theorem frame_of_index {x : Index} (hrejected : x.rejected = w.index.rejected)
    (havailable : x.available = w.index.available) :
    ({ w with index := x } : World Index) = { w with index := { w.index with
      documents := x.documents, upserts := x.upserts, tombstones := x.tombstones } } := by
  dsimp only
  rw [← hrejected, ← havailable]

/-- Where a document is rejected, only documents are written. -/
theorem of_rejected (h : IsPlan enrich ids w.store p) (hstore : w.store.available = true)
    (hindex : w.index.available = true)
    (hnot : ¬∀ i ∈ ids, (w.store.live? i).isSome = true → i ∉ w.index.rejected) :
    Leaves enrich ids w { w with index := withDocuments w.index p } := by
  have hdocs := stored?_withDocuments h w.index
  refine ⟨frame_of_index (rejected_withDocuments _ p) (available_withDocuments _ p), fun i hi => ?_,
    fun i hi => ?_⟩
  · refine (hdocs i).trans (if_pos ⟨hi.mem, ?_, hi.accepted⟩)
    exact Option.isSome_iff_ne_none.mpr fun hnone => hnot (hi.documents hnone)
  · refine (hdocs i).trans (if_neg fun hmem => hi ?_)
    refine ⟨hstore, hindex, hmem.1, hmem.2.2, fun hnone => ?_⟩
    rw [hnone] at hmem
    cases hmem.2.1

/-- Where no document is rejected, everything is written. -/
theorem of_accepted (h : IsPlan enrich ids w.store p) (hstore : w.store.available = true)
    (hindex : w.index.available = true)
    (hall : ∀ i ∈ ids, (w.store.live? i).isSome = true → i ∉ w.index.rejected) :
    Leaves enrich ids w { w with index := withTombstones (withDocuments w.index p) p } := by
  have hwritten := stored?_written h w.index
  refine ⟨frame_of_index ?_ ?_, fun i hi => ?_, fun i hi => ?_⟩
  · rw [rejected_withTombstones, rejected_withDocuments]
  · rw [available_withTombstones, available_withDocuments]
  · exact (hwritten i).trans (if_pos ⟨hi.mem, hi.accepted⟩)
  · refine (hwritten i).trans (if_neg fun hmem => hi ?_)
    exact ⟨hstore, hindex, hmem.1, hmem.2, fun _ => hall⟩

end Leaves

/-- **A run leaves behind what the identifiers are to hold**, as far as it gets. -/
theorem leaves_run {store : PrimaryStore (World Index)} (hstore : Reorders store)
    (enrich : Transform) (registry : Registry) (limit : Int) (ids : List EntityId)
    (w : World Index) :
    Leaves enrich ids w
      ((run store (Setup.inMemory enrich registry limit).reconciler.index enrich ids).exec w).2 := by
  by_cases hids : ids = []
  · subst hids
    exact .refl fun i hi => absurd hi.mem List.not_mem_nil
  obtain ⟨found, hfound, hentities⟩ := hstore (distinct ids) w
  rw [exec_run enrich registry limit hfound hentities hids]
  have hplan : IsPlan enrich ids w.store (plan enrich (distinct ids) found) := isPlan_of_perm hfound
  generalize plan enrich (distinct ids) found = p at hplan
  dsimp only
  split
  · rename_i hdown
    exact .refl fun i hi => by simp [hi.store] at hdown
  rename_i hstore
  split
  · rename_i hdown
    exact .refl fun i hi => by simp [hi.index] at hdown
  rename_i hindex
  rw [Bool.not_eq_false] at hstore hindex
  split
  · rename_i e hverdict
    refine .of_rejected hplan hstore hindex ?_
    rw [← hplan.accepted, hverdict]
    exact nofun
  · rename_i hverdict
    exact .of_accepted hplan hstore hindex (hplan.accepted.mp hverdict)

namespace Leaves

variable {i : EntityId}

/-- What a run gets to does not depend on what is held. -/
theorem reached_iff (h : Leaves enrich ids w w') : Reached ids w' i ↔ Reached ids w i := by
  rw [h.frame]
  exact ⟨fun hi => ⟨hi.1, hi.2, hi.3, hi.4, hi.5⟩, fun hi => ⟨hi.1, hi.2, hi.3, hi.4, hi.5⟩⟩

/-- **A second run changes nothing.** -/
theorem again {w'' : World Index} (h : Leaves enrich ids w w') (h' : Leaves enrich ids w' w'') :
    w''.index.stored? i = w'.index.stored? i := by
  have hstore : w'.store = w.store := by rw [h.frame]
  by_cases hi : Reached ids w i
  · rw [h'.reached i (h.reached_iff.mpr hi), h.reached i hi, hstore]
  · exact h'.others i (mt h.reached_iff.mp hi)

/-- **One way of leaving things.** -/
theorem unique {w'' : World Index} (h : Leaves enrich ids w w') (h' : Leaves enrich ids w w'') :
    w''.index.stored? i = w'.index.stored? i := by
  by_cases hi : Reached ids w i
  · rw [h'.reached i hi, h.reached i hi]
  · rw [h'.others i hi, h.others i hi]

end Leaves

end

end Outbox.Indexer
