import Outbox.Proofs.Simulation.Blind
import Outbox.Proofs.Simulation.Sources

/-!
# The index in memory and the bodies that it holds

What is read back from an index in memory is the projection of what it holds.  A body is kept with
its document, and is looked at by nobody but who asks for the document.

* `blind_inMemory` — a simulation on an index in memory is blind to bodies;
* `confined_inMemory` — what such an index holds after a command was held before, or is offered by
  the command.
-/

namespace Outbox.Memory.Index

open Outbox.Action

/-- Two indices that differ in the bodies of what they hold at most. -/
structure Akin (x x' : Index) : Prop where
  upserts : x.upserts = x'.upserts
  tombstones : x.tombstones = x'.tombstones
  rejected : x.rejected = x'.rejected
  available : x.available = x'.available
  status : ∀ i, (x.stored? i).map Stored.status = (x'.stored? i).map Stored.status

theorem Akin.refl (x : Index) : x.Akin x := ⟨rfl, rfl, rfl, rfl, fun _ => rfl⟩

variable {x x' : Index}

/-! ### What is read -/

theorem Akin.statuses (h : x.Akin x') (ids : List EntityId) : x.statuses ids = x'.statuses ids := by
  have hpairs : ∀ x : Index, x.statuses ids = Table.ofList (ids.filterMap fun i =>
      ((x.stored? i).map Stored.status).map fun st => (i, st)) := by
    intro x
    simp only [Index.statuses, Option.map_map, Function.comp_def]
  have hfilter : (fun i => ((x.stored? i).map Stored.status).map fun st => (i, st))
      = fun i => ((x'.stored? i).map Stored.status).map fun st => (i, st) := by
    funext i
    rw [h.status]
  rw [hpairs x, hpairs x', hfilter]

theorem Akin.verdict (h : x.Akin x') (ids : List EntityId) : x.verdict ids = x'.verdict ids := by
  rw [Index.verdict, Index.verdict, refused, refused, h.rejected]

/-! ### What is written -/

/-- Of a batch nothing counts for the projections but those of its entries. -/
theorem status_store (x : Index) (entries : List (EntityId × Stored)) (i : EntityId) :
    ((x.store entries).stored? i).map Stored.status
      = (Table.find? ((entries.map fun e => (e.1, e.2.status)).filter
          fun e => e.1 ∉ x.rejected).reverse i).or ((x.stored? i).map Stored.status) := by
  rw [stored?_store, Option.map_or, ← Table.find?_map, List.map_reverse, List.filter_map]
  rfl

theorem Akin.store (h : x.Akin x') {entries entries' : List (EntityId × Stored)}
    (hentries : (entries.map fun e => (e.1, e.2.status)) = entries'.map fun e => (e.1, e.2.status)) :
    (x.store entries).Akin (x'.store entries') := by
  refine ⟨h.upserts, h.tombstones, h.rejected, h.available, fun i => ?_⟩
  rw [status_store, status_store, hentries, h.rejected, h.status]

theorem Akin.afterUpsert (h : x.Akin x') {docs docs' : List Document}
    (hdocs : List.Forall₂ Document.Alike docs docs') :
    (x.afterUpsert docs).Akin (x'.afterUpsert docs') := by
  have hentries : ((docs.map fun d : Document => (d.id, Stored.live d)).map
      fun e => (e.1, e.2.status)) = (docs'.map fun d : Document => (d.id, Stored.live d)).map
        fun e => (e.1, e.2.status) := by
    rw [List.map_map, List.map_map]
    refine map_eq_of_forall₂ hdocs fun d d' hd => ?_
    rw [Function.comp_apply, Function.comp_apply, Stored.status, Stored.status, hd.id, hd.updated]
  have hlogged : Akin { x with upserts := x.upserts ++ [docs.map Document.id] }
      { x' with upserts := x'.upserts ++ [docs'.map Document.id] } :=
    ⟨by rw [h.upserts, ids_of_alike hdocs], h.tombstones, h.rejected, h.available, h.status⟩
  exact hlogged.store hentries

theorem Akin.afterTombstone (h : x.Akin x') (ids : List EntityId) :
    (x.afterTombstone ids).Akin (x'.afterTombstone ids) := by
  have hlogged : Akin { x with tombstones := x.tombstones ++ [ids] }
      { x' with tombstones := x'.tombstones ++ [ids] } :=
    ⟨h.upserts, by rw [h.tombstones], h.rejected, h.available, h.status⟩
  exact hlogged.store rfl

theorem Akin.seed (h : x.Akin x') (d : Document) : (x.seed d).Akin (x'.seed d) := by
  refine ⟨h.upserts, h.tombstones, h.rejected, h.available, fun i => ?_⟩
  rw [Index.seed, Index.seed, stored?, stored?, Table.find?_insert, Table.find?_insert]
  split
  · rfl
  · exact h.status i

theorem backend_blind : backend.Blind Akin := by
  constructor
  case statuses =>
    intro ids x x' h
    rw [exec_statuses, exec_statuses, ← h.available, ← h.statuses ids]
    split
    · exact ⟨.ok rfl, h⟩
    · exact ⟨.error _, h⟩
  case upsert =>
    intro docs docs' hdocs x x' h
    rw [exec_upsert, exec_upsert, ← h.available, ← h.verdict, ids_of_alike hdocs]
    split
    · exact ⟨matching_eq.mpr rfl, h.afterUpsert hdocs⟩
    · exact ⟨.error _, h⟩
  case tombstone =>
    intro ids x x' h
    rw [exec_tombstone, exec_tombstone, ← h.available, ← h.verdict]
    split
    · exact ⟨matching_eq.mpr rfl, h.afterTombstone ids⟩
    · exact ⟨.error _, h⟩

/-! ### Where documents come from -/

/-- A live document that is held was held before, or is one that `P` allows. -/
def KeepsOr (P : Document → Prop) (x x' : Index) : Prop :=
  ∀ i d, x'.stored? i = some (.live d) → x.stored? i = some (.live d) ∨ d.id = i ∧ P d

theorem backend_confined : backend.Confined KeepsOr := by
  constructor
  case refl => exact fun P x i d h => .inl h
  case trans =>
    intro P x y z hxy hyz i d h
    cases hyz i d h with
    | inl hheld => exact hxy i d hheld
    | inr hnew => exact .inr hnew
  case statuses =>
    intro P ids x i d h
    rw [exec_statuses] at h
    split at h
    · exact .inl h
    · exact .inl h
  case upsert =>
    intro P docs x hdocs i d h
    rw [exec_upsert] at h
    split at h
    · by_cases hi : i ∈ x.rejected ∨ i ∉ docs.map Document.id
      · rw [stored?_afterUpsert_of_notMem hi] at h
        exact .inl h
      · obtain ⟨hrejected, hmem⟩ := not_or.mp hi
        obtain ⟨d', hd', hid, hstored⟩ := stored?_afterUpsert_of_mem hrejected (not_not.mp hmem)
        obtain rfl : d' = d := Stored.live.inj (Option.some.inj (hstored.symm.trans h))
        exact .inr ⟨hid, hdocs d' hd'⟩
    · exact .inl h
  case tombstone =>
    intro P ids x i d h
    rw [exec_tombstone] at h
    split at h
    · rw [stored?_afterTombstone] at h
      split at h
      · cases h
      · exact .inl h
    · exact .inl h

end Outbox.Memory.Index

namespace Outbox.Simulation

open Outbox.Memory

variable {registry : Registry} {limit : Int}

theorem blind_inMemory (f : Transform) : (Setup.inMemory f registry limit).Blind Index.Akin := by
  refine ⟨Index.backend_blind, fun c x x' h => ?_⟩
  cases c with
  | seed d => exact ⟨.refl _, h.seed d⟩
  | setAvailable on =>
      exact ⟨.refl _, h.upserts, h.tombstones, h.rejected, rfl, h.status⟩
  | reject id =>
      exact ⟨.refl _, h.upserts, h.tombstones, congrArg (id :: ·) h.rejected, h.available, h.status⟩
  | document id => exact ⟨.document (h.status id), h⟩
  | calls =>
      refine ⟨?_, h⟩
      show SameAnswer (.ok (.calls x.upserts x.tombstones)) (.ok (.calls x'.upserts x'.tombstones))
      rw [h.upserts, h.tombstones]
      exact .refl _

theorem confined_inMemory (f : Transform) :
    (Setup.inMemory f registry limit).Confined Index.KeepsOr := by
  refine ⟨Index.backend_confined, fun P c x hseeded i d h => ?_⟩
  cases c with
  | seed d' =>
      change (x.seed d').stored? i = _ at h
      rw [Index.seed, Index.stored?, Table.find?_insert] at h
      split at h
      · rename_i hid
        obtain rfl : d' = d := Stored.live.inj (Option.some.inj h)
        exact .inr ⟨hid, hseeded d' rfl⟩
      · exact .inl h
  | _ => exact .inl h

end Outbox.Simulation
