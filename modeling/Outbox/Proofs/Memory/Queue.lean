import Mathlib.Data.List.Nodup
import Mathlib.Logic.Function.Basic
import Outbox.Memory.Queue

/-!
# Claims that are open on a queue

A claim holds tasks that are due and that no other claim holds.  `Queue.Locks` says this of the locks
alone, and `Queue.Fits` how a queue and the claims that are open on it belong together when claims
delete only what they hold; each operation of the queue keeps that.

* `release_claimDue` — a claim that is given back at once leaves no trace;
* `Locks.claimDue`, `Locks.restage`, `Locks.release` — what happens to the locks;
* `Fits.claimDue`, `Fits.restage`, `Fits.release`, `Fits.commitClaim`, `Fits.commitProducer` — one
  lemma for each thing that can happen to a queue;
* `mem_commitClaim` — a commit keeps every task whose deletion was not asked for.
-/

namespace Outbox.Memory

/-- The identifiers of the tasks that a claim holds. -/
def Claim.ids (c : Claim) : List TaskId := c.tasks.map Task.id

@[simp] theorem Claim.ids_delete (c : Claim) (is : List TaskId) : (c.delete is).ids = c.ids := rfl

@[simp] theorem Claim.ids_quarantine (c : Claim) (t : Task) (reason : String) :
    (c.quarantine t reason).ids = c.ids := rfl

/-- Sets tasks aside in turn, each for its reason. -/
def Claim.setAside (c : Claim) (bad : List (Task × String)) : Claim :=
  bad.foldl (fun c p => c.quarantine p.1 p.2) c

@[simp] theorem Claim.tasks_setAside (c : Claim) (bad : List (Task × String)) :
    (c.setAside bad).tasks = c.tasks := by
  induction bad generalizing c with
  | nil => rfl
  | cons p bad ih => exact ih (c.quarantine p.1 p.2)

theorem Claim.deleted_setAside (c : Claim) (bad : List (Task × String)) :
    (c.setAside bad).deleted = c.deleted ++ bad.map fun p => p.1.id := by
  induction bad generalizing c with
  | nil => exact (List.append_nil _).symm
  | cons p bad ih =>
      show ((c.quarantine p.1 p.2).setAside bad).deleted = _
      rw [ih, Claim.quarantine, List.append_assoc, List.singleton_append, List.map_cons]

theorem Claim.quarantined_setAside (c : Claim) (bad : List (Task × String)) :
    (c.setAside bad).quarantined = c.quarantined ++ bad.map fun p => ⟨p.1, p.2⟩ := by
  induction bad generalizing c with
  | nil => exact (List.append_nil _).symm
  | cons p bad ih =>
      show ((c.quarantine p.1 p.2).setAside bad).quarantined = _
      rw [ih, Claim.quarantine, List.append_assoc, List.singleton_append, List.map_cons]

/-! ### What goes by names -/

section Names

variable {κ α : Type} [DecidableEq κ] {entries : κ → Option α} {k : κ}

/-- What holds of everything still does when one thing changes into another of which it holds. -/
theorem forall_update {p : α → Prop} (h : ∀ j a, entries j = some a → p a) {entry : Option α}
    (hentry : ∀ a ∈ entry, p a) : ∀ j a, Function.update entries k entry j = some a → p a := by
  intro j a ha
  rw [Function.update_apply] at ha
  split at ha
  · exact hentry a ha
  · exact h j a ha

/-- The others stay as they are when one ends. -/
theorem of_ended {j : κ} {a : α} (ha : Function.update entries k none j = some a) :
    j ≠ k ∧ entries j = some a := by
  rw [Function.update_apply] at ha
  split at ha
  · cases ha
  · exact ⟨‹_›, ha⟩

end Names

namespace Queue

/-! ### Claiming and giving back -/

theorem mem_due {q : Queue} {t : Task} : t ∈ q.due ↔ t ∈ q.tasks ∧ q.isDue t = true := by
  rw [due, List.mem_mergeSort, List.mem_filter]

theorem mem_of_mem_claimDue {q : Queue} {limit : Int} {t : Task}
    (h : t ∈ (q.claimDue limit).1.tasks) : t ∈ q.tasks ∧ t.id ∉ q.locked := by
  obtain ⟨hmem, hdue⟩ := mem_due.mp (List.mem_of_mem_take h)
  rw [isDue, Bool.and_eq_true] at hdue
  exact ⟨hmem, of_decide_eq_true hdue.2⟩

theorem notMem_locked_of_mem_ids {q : Queue} {limit : Int} {i : TaskId}
    (h : i ∈ (q.claimDue limit).1.ids) : i ∉ q.locked := by
  obtain ⟨t, ht, rfl⟩ := List.mem_map.mp h
  exact (mem_of_mem_claimDue ht).2

/-- **Nothing is left of a claim that is given back at once.** -/
theorem release_claimDue (q : Queue) (limit : Int) :
    (q.claimDue limit).2.release (q.claimDue limit).1 = q := by
  have hlocked : (q.locked ++ (q.claimDue limit).1.ids).filter
      (fun i => i ∉ (q.claimDue limit).1.ids) = q.locked := by
    rw [List.filter_append, List.filter_eq_self.mpr, List.filter_eq_nil_iff.mpr, List.append_nil]
    · intro i hi
      simpa using hi
    · intro i hi
      exact decide_eq_true fun h => notMem_locked_of_mem_ids h hi
  exact congrArg (fun locked => { q with locked := locked }) hlocked

/-- Only the tasks of a claim matter when it is given back. -/
theorem release_congr (q : Queue) {c c' : Claim} (h : c.tasks = c'.tasks) :
    q.release c = q.release c' := by
  rw [release, release, h]

theorem mem_locked_release {q : Queue} {c : Claim} {i : TaskId} :
    i ∈ (q.release c).locked ↔ i ∈ q.locked ∧ i ∉ c.ids := by
  simp [release, Claim.ids]

theorem mem_commitClaim {q : Queue} {c : Claim} {t : Task} :
    t ∈ (q.commitClaim c).tasks ↔ t ∈ q.tasks ∧ t.id ∉ c.deleted := by
  simp [commitClaim, release]

/-! ### Locks -/

variable {κ : Type}

/-- The locks are those of the claims that are open.  Claims go by names, of which there may be any
number. -/
structure Locks (locked : List TaskId) (claims : κ → Option Claim) : Prop where
  /-- No two claims hold one task. -/
  disjoint : ∀ k k' c c', claims k = some c → claims k' = some c' → k ≠ k' →
    ∀ i ∈ c.ids, i ∉ c'.ids
  /-- The locked tasks are those that claims hold. -/
  locked_iff : ∀ i, i ∈ locked ↔ ∃ k c, claims k = some c ∧ i ∈ c.ids

namespace Locks

variable {q : Queue} {locked : List TaskId} {claims : κ → Option Claim} {k : κ} {c c' : Claim}

theorem of_unlocked : Locks [] (fun _ : κ => none) where
  disjoint := nofun
  locked_iff i := by simp

theorem ids_subset (h : Locks locked claims) (hc : claims k = some c) {i : TaskId}
    (hi : i ∈ c.ids) : i ∈ locked :=
  (h.locked_iff i).mpr ⟨k, c, hc, hi⟩

variable [DecidableEq κ]

/-- **Claiming.**  A new claim locks what no other one holds. -/
theorem claimDue (h : Locks q.locked claims) (hk : claims k = none) (limit : Int) :
    Locks (q.claimDue limit).2.locked
      (Function.update claims k (some (q.claimDue limit).1)) where
  disjoint j j' d d' hd hd' hne i hi hi' := by
    rw [Function.update_apply] at hd hd'
    split at hd
    · rename_i hj
      cases hd
      rw [if_neg (hj ▸ hne.symm)] at hd'
      exact notMem_locked_of_mem_ids hi (h.ids_subset hd' hi')
    · split at hd'
      · cases hd'
        exact notMem_locked_of_mem_ids hi' (h.ids_subset hd hi)
      · exact h.disjoint j j' d d' hd hd' hne i hi hi'
  locked_iff i := by
    show i ∈ q.locked ++ (q.claimDue limit).1.ids ↔ _
    rw [List.mem_append, h.locked_iff]
    constructor
    · rintro (⟨j, d, hd, hi⟩ | hi)
      · have hj : j ≠ k := by
          rintro rfl
          rw [hk] at hd
          cases hd
        exact ⟨j, d, by rw [Function.update_of_ne hj, hd], hi⟩
      · exact ⟨k, _, Function.update_self .., hi⟩
    · rintro ⟨j, d, hd, hi⟩
      rw [Function.update_apply] at hd
      split at hd
      · cases hd
        exact .inr hi
      · exact .inl ⟨j, d, hd, hi⟩

/-- Every claim holds what the claim of that name held before. -/
theorem restaged (hc : claims k = some c) (hids : c'.ids = c.ids) {j : κ} {d : Claim}
    (hd : Function.update claims k (some c') j = some d) :
    ∃ b, claims j = some b ∧ d.ids = b.ids := by
  rw [Function.update_apply] at hd
  split at hd
  · rename_i hj
    cases hd
    exact ⟨c, hj ▸ hc, hids⟩
  · exact ⟨d, hd, rfl⟩

/-- **Asking for changes.**  A claim that still holds the same tasks may take the place of another. -/
theorem restage (h : Locks locked claims) (hc : claims k = some c) (htasks : c'.tasks = c.tasks) :
    Locks locked (Function.update claims k (some c')) := by
  have hids : c'.ids = c.ids := by rw [Claim.ids, Claim.ids, htasks]
  constructor
  case disjoint =>
    intro j j' d d' hd hd' hne i hi
    obtain ⟨b, hb, hbi⟩ := restaged hc hids hd
    obtain ⟨b', hb', hbi'⟩ := restaged hc hids hd'
    rw [hbi']
    exact h.disjoint j j' b b' hb hb' hne i (hbi ▸ hi)
  case locked_iff =>
    intro i
    rw [h.locked_iff]
    constructor
    · rintro ⟨j, d, hd, hi⟩
      by_cases hj : j = k
      · obtain rfl : c = d := Option.some.inj (hc.symm.trans (hj ▸ hd))
        exact ⟨k, c', Function.update_self .., hids ▸ hi⟩
      · exact ⟨j, d, by rw [Function.update_of_ne hj, hd], hi⟩
    · rintro ⟨j, d, hd, hi⟩
      obtain ⟨b, hb, hbi⟩ := restaged hc hids hd
      exact ⟨j, b, hb, hbi ▸ hi⟩

/-- **Giving back.**  A claim that ends takes its locks with it, and no others. -/
theorem release (h : Locks q.locked claims) (hc : claims k = some c) :
    Locks (q.release c).locked (Function.update claims k none) where
  disjoint j j' d d' hd hd' :=
    h.disjoint j j' d d' (of_ended hd).2 (of_ended hd').2
  locked_iff i := by
    rw [mem_locked_release, h.locked_iff]
    constructor
    · rintro ⟨⟨j, d, hd, hi⟩, hnot⟩
      have hj : j ≠ k := by
        rintro rfl
        rw [hc] at hd
        cases hd
        exact hnot hi
      exact ⟨j, d, by rw [Function.update_of_ne hj, hd], hi⟩
    · rintro ⟨j, d, hd, hi⟩
      obtain ⟨hj, hd⟩ := of_ended hd
      exact ⟨⟨j, d, hd, hi⟩, h.disjoint j k d c hd hc hj i hi⟩

end Locks

/-! ### The queue and its open claims -/

/-- How a queue and the claims that are open on it belong together. -/
structure Fits (q : Queue) (claims : κ → Option Claim) : Prop where
  /-- No two tasks have one identifier. -/
  nodup : (q.tasks.map Task.id).Nodup
  /-- A claim holds tasks of the queue. -/
  held : ∀ k c, claims k = some c → ∀ t ∈ c.tasks, t ∈ q.tasks
  /-- No two claims hold one task. -/
  disjoint : ∀ k k' c c', claims k = some c → claims k' = some c' → k ≠ k' →
    ∀ i ∈ c.ids, i ∉ c'.ids
  /-- The locked tasks are those that claims hold. -/
  locked_iff : ∀ i, i ∈ q.locked ↔ ∃ k c, claims k = some c ∧ i ∈ c.ids
  /-- A claim deletes only what it holds. -/
  deletes_own : ∀ k c, claims k = some c → ∀ i ∈ c.deleted, i ∈ c.ids

/-- With no claim open nothing is locked. -/
theorem Fits.of_unlocked {q : Queue} (hnodup : (q.tasks.map Task.id).Nodup)
    (hlocked : q.locked = []) : q.Fits (fun _ : κ => none) where
  nodup := hnodup
  held := nofun
  disjoint := nofun
  locked_iff := hlocked ▸ Locks.of_unlocked.locked_iff
  deletes_own := nofun

section Steps

variable {q : Queue} {claims : κ → Option Claim}

/-- A task is told by its identifier. -/
theorem Fits.eq_of_id (h : q.Fits claims) {t t' : Task} (ht : t ∈ q.tasks) (ht' : t' ∈ q.tasks)
    (hid : t.id = t'.id) : t = t' :=
  List.inj_on_of_nodup_map h.nodup ht ht' hid

/-- The claims do not depend on what else is in the queue. -/
theorem Fits.commitProducer (h : q.Fits claims) {tx : Transaction}
    (hnodup : (tx.staged.map Task.id).Nodup)
    (hfresh : ∀ i ∈ tx.staged.map Task.id, i ∉ q.tasks.map Task.id) :
    (q.commitProducer tx).Fits claims where
  nodup := by
    rw [Queue.commitProducer, List.map_append]
    exact List.Nodup.append h.nodup hnodup fun i hi hi' => hfresh i hi' hi
  held k c hc t ht := List.mem_append_left _ (h.held k c hc t ht)
  disjoint := h.disjoint
  locked_iff := h.locked_iff
  deletes_own := h.deletes_own

theorem Fits.advance (h : q.Fits claims) (nanos : Int) : (q.advance nanos).Fits claims :=
  ⟨h.nodup, h.held, h.disjoint, h.locked_iff, h.deletes_own⟩

variable {k : κ} {c c' : Claim}

theorem Fits.locks (h : q.Fits claims) : Locks q.locked claims := ⟨h.disjoint, h.locked_iff⟩

/-- A claim keeps its tasks when another one commits. -/
theorem Fits.mem_commitClaim_of_held (h : q.Fits claims) (hc : claims k = some c) {j : κ}
    {d : Claim} (hd : claims j = some d) (hj : j ≠ k) {t : Task} (ht : t ∈ d.tasks) :
    t ∈ (q.commitClaim c).tasks := by
  refine mem_commitClaim.mpr ⟨h.held j d hd t ht, fun hdel => ?_⟩
  exact h.disjoint j k d c hd hc hj t.id (List.mem_map_of_mem ht) (h.deletes_own k c hc _ hdel)

variable [DecidableEq κ]

/-- **Claiming.**  A new claim fits beside those that are open. -/
theorem Fits.claimDue (h : q.Fits claims) (hk : claims k = none) (limit : Int) :
    (q.claimDue limit).2.Fits (Function.update claims k (some (q.claimDue limit).1)) where
  nodup := h.nodup
  held := forall_update h.held fun d hd t ht => by
    cases hd
    exact (mem_of_mem_claimDue ht).1
  disjoint := (h.locks.claimDue hk limit).disjoint
  locked_iff := (h.locks.claimDue hk limit).locked_iff
  deletes_own := forall_update h.deletes_own fun d hd i hi => by
    cases hd
    exact absurd hi List.not_mem_nil

/-- **Asking for changes.**  A claim that still holds the same tasks, and deletes only these, may
take the place of another. -/
theorem Fits.restage (h : q.Fits claims) (hc : claims k = some c) (htasks : c'.tasks = c.tasks)
    (hdeleted : ∀ i ∈ c'.deleted, i ∈ c'.ids) :
    q.Fits (Function.update claims k (some c')) where
  nodup := h.nodup
  held := forall_update h.held fun d hd t ht => by
    cases hd
    exact h.held k c hc t (htasks ▸ ht)
  disjoint := (h.locks.restage hc htasks).disjoint
  locked_iff := (h.locks.restage hc htasks).locked_iff
  deletes_own := forall_update h.deletes_own fun d hd => by
    cases hd
    exact hdeleted

/-- **Giving back.**  A claim that ends without a commit takes its locks with it. -/
theorem Fits.release (h : q.Fits claims) (hc : claims k = some c) :
    (q.release c).Fits (Function.update claims k none) where
  nodup := h.nodup
  held := forall_update h.held nofun
  disjoint := (h.locks.release hc).disjoint
  locked_iff := (h.locks.release hc).locked_iff
  deletes_own := forall_update h.deletes_own nofun

/-- **Committing.**  The tasks that go are the claim's own, so every other claim still fits. -/
theorem Fits.commitClaim (h : q.Fits claims) (hc : claims k = some c) :
    (q.commitClaim c).Fits (Function.update claims k none) := by
  have hreleased := h.release hc
  refine ⟨?_, ?_, hreleased.disjoint, hreleased.locked_iff, hreleased.deletes_own⟩
  · exact (List.filter_sublist.map _).nodup h.nodup
  · intro j d hd t ht
    obtain ⟨hj, hd⟩ := of_ended hd
    exact h.mem_commitClaim_of_held hc hd hj ht

end Steps

end Queue

end Outbox.Memory
