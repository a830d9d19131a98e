import Outbox.Proofs.Memory.Order
import Outbox.Proofs.Memory.Unguarded

/-!
# What the commit of a claim touches

A deletion is asked for by identifier, and a claim forgets those that it does not hold.  A task that is
set aside is taken as it is: whoever holds it, it leaves the queue with the commit, and it is among the
dead letters as often as it was set aside.  The locks of other claims stay either way.

* `Recorded.left` — a task that leaves was held, or was set aside;
* `commit_confined_iff` — a commit keeps to the tasks of its claim exactly if only these were set aside,
  and each of them once;
* `commit_robs` — a claim that takes a task from another one.
-/

namespace Outbox.Memory.Traffic

open Outbox.Time

variable {ι κ : Type} {s s' : Traffic ι κ} {k : κ} {c : Claim}

/-- From one state to the next, a claim touches only the tasks that it holds. -/
structure Confined (s s' : Traffic ι κ) (k : κ) (c : Claim) : Prop where
  /-- Only its tasks leave the queue; the others stay, in their order. -/
  tasks : s'.queue.tasks.Sublist s.queue.tasks ∧
    ∀ t ∈ s.queue.tasks, t ∉ s'.queue.tasks → t ∈ c.tasks
  /-- Only its tasks come to the dead letters, none of them twice. -/
  deadLetters : ∃ new, s'.queue.deadLetters = s.queue.deadLetters ++ new ∧
    (∀ d ∈ new, d.task ∈ c.tasks) ∧ (new.map DeadLetter.task).Nodup
  /-- The locks that are left are those of the other claims. -/
  locks : ∀ i, i ∈ s'.queue.locked ↔ ∃ j d, j ≠ k ∧ s.claims j = some d ∧ i ∈ d.ids

variable [DecidableEq ι] [DecidableEq κ]

theorem stepAny_commitClaim (hc : s.claims k = some c) :
    s.stepAny (.commitClaim k)
      = { s with
          queue := s.queue.commitClaim c
          claims := Function.update s.claims k none
          settled := s.settled ++ [c] } := by
  show s.commitClaim k = _
  rw [commitClaim, hc]

omit [DecidableEq ι] in
theorem claimDue_of_eq (hk : s.claims k = none) {limit : Int} {q : Queue}
    (h : s.queue.claimDue limit = (c, q)) :
    s.claimDue k limit = { s with queue := q, claims := Function.update s.claims k (some c) } := by
  rw [claimDue, hk]
  dsimp only
  rw [h]

namespace Recorded

omit [DecidableEq ι] [DecidableEq κ] in
/-- **A task that leaves** was held, or was set aside. -/
theorem left (h : s.Recorded) (hc : s.claims k = some c) {t : Task} (ht : t ∈ s.queue.tasks)
    (hgone : t ∉ (s.queue.commitClaim c).tasks) :
    t ∈ c.tasks ∨ ∃ d ∈ c.quarantined, d.task.id = t.id := by
  have hdeleted : t.id ∈ c.deleted := by
    by_contra hnot
    exact hgone (Queue.mem_commitClaim.mpr ⟨ht, hnot⟩)
  rcases (h.accountable k c hc).deletes _ hdeleted with hown | hset
  · exact .inl ((h.mem_ids hc ht).mp hown)
  · exact .inr (List.mem_map.mp hset)

/-- What a commit leaves locked is what the other claims hold. -/
theorem locked_commitClaim (h : s.Recorded) (hc : s.claims k = some c) (i : TaskId) :
    i ∈ (s.stepAny (.commitClaim k)).queue.locked ↔
      ∃ j d, j ≠ k ∧ s.claims j = some d ∧ i ∈ d.ids := by
  have hlocks := (h.locks.release hc).locked_iff i
  rw [stepAny_commitClaim hc]
  refine hlocks.trans (exists_congr fun j => exists_congr fun d => ?_)
  rw [Function.update_apply]
  by_cases hj : j = k
  · simp [hj]
  · simp [hj]

end Recorded

/-- **Commits, whatever was asked for.**  In every state that is reached and for every open claim: the
commit removes tasks that the claim holds or that were set aside, whatever identifiers it was told to
delete; it adds to the dead letters what was set aside, as often as it was; and it unlocks the tasks of
the claim and no others.  So it touches only the tasks of the claim exactly if only these were set
aside, each of them once. -/
theorem commit_confined_iff (now : Timestamp) (es : List (Event ι κ))
    (hc : ((start now).runAny es).claims k = some c) :
    let s : Traffic ι κ := (start now).runAny es
    let s' := s.stepAny (.commitClaim k)
    (∀ t ∈ s.queue.tasks, t ∉ s'.queue.tasks →
      t ∈ c.tasks ∨ ∃ d ∈ c.quarantined, d.task.id = t.id) ∧
    s'.queue.deadLetters = s.queue.deadLetters ++ c.quarantined ∧
    (∀ i, i ∈ s'.queue.locked ↔ ∃ j d, j ≠ k ∧ s.claims j = some d ∧ i ∈ d.ids) ∧
    (Confined s s' k c ↔
      (∀ d ∈ c.quarantined, d.task ∈ c.tasks) ∧ (c.quarantined.map DeadLetter.task).Nodup) := by
  intro s s'
  have h : s.Recorded := recorded_runAny now es
  have hqueue : s'.queue = s.queue.commitClaim c := congrArg queue (stepAny_commitClaim hc)
  have hleft : ∀ t ∈ s.queue.tasks, t ∉ s'.queue.tasks →
      t ∈ c.tasks ∨ ∃ d ∈ c.quarantined, d.task.id = t.id := by
    rw [hqueue]
    exact fun t => h.left hc
  have hdead : s'.queue.deadLetters = s.queue.deadLetters ++ c.quarantined := by
    rw [hqueue]
    rfl
  refine ⟨hleft, hdead, h.locked_commitClaim hc, ?_⟩
  constructor
  · rintro ⟨-, ⟨new, hnew, hown, honce⟩, -⟩
    obtain rfl : c.quarantined = new := List.append_cancel_left (hdead.symm.trans hnew)
    exact ⟨hown, honce⟩
  · rintro ⟨hown, honce⟩
    refine ⟨⟨?_, fun t ht hgone => ?_⟩, ⟨_, hdead, hown, honce⟩, h.locked_commitClaim hc⟩
    · rw [hqueue]
      exact List.filter_sublist
    · rcases hleft t ht hgone with hheld | ⟨d, hd, hid⟩
      · exact hheld
      · -- what was set aside is held, so it is the task of that identifier
        have hd := hown d hd
        exact h.eq_of_id (h.held k c hc _ hd) (h.tasks.mem ht) hid ▸ hd

/-! ### A claim that takes from another -/

/-- A task that came at the beginning. -/
def parcel (n : Nat) : Task := ⟨⟨.ofNat n⟩, ⟨0, 0⟩, ⟨0, 0⟩, "parcel", .null⟩

/-- Two tasks are committed, and become due. -/
def arrival : List (Event Unit Bool) :=
  [.begin (), .enqueueRaw () (parcel 1).id "parcel" .null none,
    .enqueueRaw () (parcel 2).id "parcel" .null none, .commitTransaction (), .advance 1]

/-- Two claims take a task each, and the first sets one aside. -/
def visit (t : Task) : List (Event Unit Bool) :=
  arrival ++ [.claimDue true 1, .claimDue false 1, .quarantine true t "unwanted"]

/-- What the two claims leave: a task is locked for each of them, and nothing else has changed. -/
def visited (t : Task) : Traffic Unit Bool :=
  { (start ⟨0, 0⟩).runAny arrival with
    queue := ⟨[parcel 1, parcel 2], [(parcel 1).id, (parcel 2).id], [], ⟨0, 1⟩⟩
    claims := Function.update (Function.update (Function.update (fun _ => none) true
      (some ⟨[parcel 1], [], []⟩)) false (some ⟨[parcel 2], [], []⟩)) true
      (some ⟨[parcel 1], [t.id], [⟨t, "unwanted"⟩]⟩) }

theorem runAny_visit (t : Task) : (start ⟨0, 0⟩).runAny (visit t) = visited t := by
  have hdue : ((start ⟨0, 0⟩ : Traffic Unit Bool).runAny arrival).queue.due
      = [parcel 1, parcel 2] :=
    Queue.due_of_pairwise (by decide +kernel) (by decide +kernel)
  have hfirst : ((start ⟨0, 0⟩ : Traffic Unit Bool).runAny arrival).queue.claimDue 1
      = (⟨[parcel 1], [], []⟩, ⟨[parcel 1, parcel 2], [(parcel 1).id], [], ⟨0, 1⟩⟩) := by
    rw [Queue.claimDue, hdue]
    rfl
  have hrest : (Queue.mk [parcel 1, parcel 2] [(parcel 1).id] [] ⟨0, 1⟩).due = [parcel 2] :=
    Queue.due_of_pairwise (by decide +kernel) (List.pairwise_singleton _ _)
  have hsecond : (Queue.mk [parcel 1, parcel 2] [(parcel 1).id] [] ⟨0, 1⟩).claimDue 1
      = (⟨[parcel 2], [], []⟩,
        ⟨[parcel 1, parcel 2], [(parcel 1).id, (parcel 2).id], [], ⟨0, 1⟩⟩) := by
    rw [Queue.claimDue, hrest]
    rfl
  rw [visit, runAny, List.foldl_append]
  show (((((start ⟨0, 0⟩).runAny arrival).claimDue true 1).claimDue false 1).quarantineAny true t
    "unwanted") = _
  rw [claimDue_of_eq rfl hfirst, claimDue_of_eq rfl hsecond]
  rfl

/-- A claim that sets aside its own task keeps to what it holds. -/
theorem commit_confined_own :
    ((start ⟨0, 0⟩).runAny (visit (parcel 1))).claims true
        = some ⟨[parcel 1], [(parcel 1).id], [⟨parcel 1, "unwanted"⟩]⟩ ∧
      Confined ((start ⟨0, 0⟩).runAny (visit (parcel 1)))
        (((start ⟨0, 0⟩).runAny (visit (parcel 1))).stepAny (.commitClaim true)) true
        ⟨[parcel 1], [(parcel 1).id], [⟨parcel 1, "unwanted"⟩]⟩ := by
  have hc : ((start ⟨0, 0⟩).runAny (visit (parcel 1))).claims true
      = some ⟨[parcel 1], [(parcel 1).id], [⟨parcel 1, "unwanted"⟩]⟩ := by
    rw [runAny_visit]
    rfl
  refine ⟨hc, (commit_confined_iff ⟨0, 0⟩ (visit (parcel 1)) hc).2.2.2.mpr ⟨?_, ?_⟩⟩
  · decide +kernel
  · decide +kernel

/-- **A claim that sets aside the task of another one.**  The task is gone with the commit and is among
the dead letters, while the other claim still holds it. -/
theorem commit_robs :
    ∃ (s : Traffic Unit Bool) (c d : Claim), s = (start ⟨0, 0⟩).runAny (visit (parcel 2)) ∧
      s.claims true = some c ∧ s.claims false = some d ∧
      parcel 2 ∈ d.tasks ∧ parcel 2 ∉ c.tasks ∧ parcel 2 ∈ s.queue.tasks ∧
      parcel 2 ∉ (s.stepAny (.commitClaim true)).queue.tasks ∧
      (s.stepAny (.commitClaim true)).queue.deadLetters = [⟨parcel 2, "unwanted"⟩] ∧
      ¬Confined s (s.stepAny (.commitClaim true)) true c := by
  have hgone : parcel 2 ∉ ((visited (parcel 2)).stepAny (.commitClaim true)).queue.tasks := by
    decide +kernel
  have hforeign : parcel 2 ∉ [parcel 1] := by decide +kernel
  refine ⟨visited (parcel 2), _, _, (runAny_visit _).symm, rfl, rfl, List.mem_singleton_self _,
    hforeign, List.mem_cons_of_mem _ (List.mem_singleton_self _), hgone, rfl, ?_⟩
  intro hconfined
  exact hforeign (hconfined.tasks.2 (parcel 2) (List.mem_cons_of_mem _ (List.mem_singleton_self _))
    hgone)

end Outbox.Memory.Traffic
