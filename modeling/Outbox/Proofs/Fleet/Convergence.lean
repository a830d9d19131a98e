import Outbox.Proofs.Fleet.Producers

/-!
# Convergence

What consumers make of the index, however their steps fall between those of producers and of each
other.

* `no_lost_update` — with one consumer, a change is in the index or its task is still there;
* `overtaking` — with two consumers that is not so: one may write what it read before a change that
  the other has dealt with already, and nobody is told;
* `converged_iff` — with any number, that is the only way in which it is not so.
-/

namespace Outbox.Fleet

open Outbox.Memory Outbox.Reconciler Outbox.Simulation Outbox.Time

variable {κ : Type}

/-- Where no task names an entity that was changed, the index is good. -/
theorem Sound.good_of_not_queued {registry : Registry} {s : Fleet κ} (h : s.Sound registry)
    {e : EntityId} (hchanged : s.latest e ≠ none)
    (hdone : ∀ t ∈ s.world.queue.tasks, ¬Names registry t e) : s.scene.Good (Several κ) e := by
  obtain ⟨i, hi⟩ := Option.ne_none_iff_exists'.mp hchanged
  refine (h.accounted e i hi).resolve_left fun hqueued => ?_
  obtain ⟨t, ht, hid⟩ := List.mem_map.mp hqueued
  exact hdone t ht (h.latest_names e i hi t ht hid)

/-! ### One consumer -/

/-- **No lost update.**  With one consumer, whose ticks may be interrupted by producers and end at
any step, every live entity that was ever changed is named by a task in the queue, or the index
holds its version. -/
theorem no_lost_update (c : Settings Unit) (now : Timestamp) (store : Store) (index : Index)
    (es : List (Event Unit)) {e : EntityId} {ent : Entity}
    (hchanged : ((start now store index).run c es).latest e ≠ none)
    (hlive : ((start now store index).run c es).world.store.live? e = some ent) :
    (∃ t ∈ ((start now store index).run c es).world.queue.tasks, Names c.registry t e) ∨
      ((start now store index).run c es).world.index.HasVersion e ent.updated := by
  have hsound := (Sound.start c.registry now store index).run es
  rw [or_iff_not_imp_left]
  intro hdone
  push Not at hdone
  rcases hsound.good_of_not_queued hchanged hdone with hcurrent | ⟨⟨j, k, hne⟩, -⟩
  · exact hcurrent ent hlive
  · exact absurd rfl hne

/-- One consumer that leaves documents as they are. -/
def single : Settings Unit := ⟨fun _ => .unchanged, .standard, fun _ => 10⟩

/-- An entity with a given version. -/
def sample (updated : Int) : Entity := ⟨⟨.ofNat 1⟩, ⟨updated, 0⟩, false, []⟩

/-- The payload of its tasks. -/
def samplePayload : Json := (Payload.syncEntity ⟨.ofNat 1⟩).toJson

/-- A producer changes an entity between the reading and the writing of a tick. -/
def interrupted : List (Event Unit) :=
  [.change (.put (sample 1)) ⟨.ofNat 11⟩ syncEntityTag samplePayload none, .advance 1000] ++
    List.replicate 4 (.step ()) ++
    [.change (.put (sample 2)) ⟨.ofNat 12⟩ syncEntityTag samplePayload none] ++
    List.replicate 3 (.step ())

/-- The index holds the version that was read, and the task of the change is still there. -/
theorem no_lost_update_interrupted :
    let s := (start ⟨0, 0⟩ Store.empty Index.empty).run single interrupted
    s.latest ⟨.ofNat 1⟩ ≠ none ∧ s.world.store.live? ⟨.ofNat 1⟩ = some (sample 2) ∧
      ((∃ t ∈ s.world.queue.tasks, Names single.registry t ⟨.ofNat 1⟩) ∨
        s.world.index.HasVersion ⟨.ofNat 1⟩ (sample 2).updated) := by
  have hchanged : ((start ⟨0, 0⟩ Store.empty Index.empty).run single interrupted).latest
      ⟨.ofNat 1⟩ ≠ none := by decide +kernel
  have hlive : ((start ⟨0, 0⟩ Store.empty Index.empty).run single interrupted).world.store.live?
      ⟨.ofNat 1⟩ = some (sample 2) := by decide +kernel
  exact ⟨hchanged, hlive,
    no_lost_update single ⟨0, 0⟩ Store.empty Index.empty interrupted hchanged hlive⟩

/-! ### Any number of consumers -/

variable [DecidableEq κ]

/-- **Convergence.**  Where no task names a live entity that was changed, the index holds its
version, unless it was written last by a consumer who had read the entity before its last change. -/
theorem converged_iff (c : Settings κ) (now : Timestamp) (store : Store) (index : Index)
    (es : List (Event κ)) {e : EntityId} {ent : Entity}
    (hchanged : ((start now store index).run c es).latest e ≠ none)
    (hdone : ∀ t ∈ ((start now store index).run c es).world.queue.tasks, ¬Names c.registry t e)
    (hlive : ((start now store index).run c es).world.store.live? e = some ent) :
    ((start now store index).run c es).world.index.HasVersion e ent.updated ↔
      ((start now store index).run c es).outdated e = false := by
  have hsound : ((start now store index).run c es).Sound c.registry :=
    (Sound.start c.registry now store index).run es
  constructor
  · intro hversion
    refine Bool.eq_false_iff.mpr fun houtdated => ?_
    exact hsound.outdated_past e houtdated ent hlive hversion
  · intro hfresh
    rcases hsound.good_of_not_queued hchanged hdone with hcurrent | ⟨-, houtdated⟩
    · exact hcurrent ent hlive
    · exact absurd houtdated (Bool.eq_false_iff.mp hfresh)

/-- Two consumers that leave documents as they are. -/
def pair : Settings Bool := ⟨fun _ => .unchanged, .standard, fun _ => 10⟩

/-- A consumer that has read an entity is overtaken: before it writes, a producer changes the
entity, and the other consumer goes through a whole tick for that change. -/
def overtaking : List (Event Bool) :=
  [.change (.put (sample 1)) ⟨.ofNat 11⟩ syncEntityTag samplePayload none, .advance 1000] ++
    List.replicate 4 (.step false) ++
    [.change (.put (sample 2)) ⟨.ofNat 12⟩ syncEntityTag samplePayload none, .advance 1000] ++
    List.replicate 7 (.step true) ++ List.replicate 3 (.step false)

/-- The index is left with the version that the first consumer had read, and it is outdated. -/
theorem converged_iff_overtaking :
    let s := (start ⟨0, 0⟩ Store.empty Index.empty).run pair overtaking
    s.outdated ⟨.ofNat 1⟩ = true ∧
      (s.world.index.HasVersion ⟨.ofNat 1⟩ (sample 2).updated ↔ s.outdated ⟨.ofNat 1⟩ = false) := by
  have hchanged : ((start ⟨0, 0⟩ Store.empty Index.empty).run pair overtaking).latest
      ⟨.ofNat 1⟩ ≠ none := by decide +kernel
  have hdone : ∀ t ∈ ((start ⟨0, 0⟩ Store.empty Index.empty).run pair overtaking).world.queue.tasks,
      ¬Names pair.registry t ⟨.ofNat 1⟩ := by decide +kernel
  have hlive : ((start ⟨0, 0⟩ Store.empty Index.empty).run pair overtaking).world.store.live?
      ⟨.ofNat 1⟩ = some (sample 2) := by decide +kernel
  exact ⟨by decide +kernel,
    converged_iff pair ⟨0, 0⟩ Store.empty Index.empty overtaking hchanged hdone hlive⟩

/-- **Overtaking.**  The queue is empty, no claim is open, and the index does not hold the version
of a live entity that was changed: there is nothing left that would make it do so. -/
theorem not_converged_overtaking :
    let s := (start ⟨0, 0⟩ Store.empty Index.empty).run pair overtaking
    s.world.queue.tasks = [] ∧ s.claims = (fun _ => none) ∧ s.latest ⟨.ofNat 1⟩ ≠ none ∧
      s.world.store.live? ⟨.ofNat 1⟩ = some (sample 2) ∧
      ¬s.world.index.HasVersion ⟨.ofNat 1⟩ (sample 2).updated := by
  have hclaims : ∀ k,
      ((start ⟨0, 0⟩ Store.empty Index.empty).run pair overtaking).claims k = none := by
    decide +kernel
  have hstored : ((start ⟨0, 0⟩ Store.empty Index.empty).run pair overtaking).world.index.stored?
      ⟨.ofNat 1⟩ = some (.live (.ofEntity (sample 1))) := by decide +kernel
  refine ⟨by decide +kernel, funext hclaims, by decide +kernel, by decide +kernel, ?_⟩
  rintro ⟨d, hd, hupdated⟩
  rw [hstored, Option.some.injEq, Stored.live.injEq] at hd
  rw [← hd] at hupdated
  revert hupdated
  decide

end Outbox.Fleet
