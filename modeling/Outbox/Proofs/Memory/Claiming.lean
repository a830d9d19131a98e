import Outbox.Proofs.Memory.Order
import Outbox.Proofs.Memory.Unguarded

/-!
# Which tasks a claim takes

Of the tasks whose time has come and that no open claim holds, a claim takes the first ones: the
oldest, and of one age those that were committed first.  What a claim takes is locked, so the next
claim goes on where it stopped.

* `Eligible`, `Precedes` — the tasks that may be claimed, and their order;
* `Recorded.mem_due`, `Recorded.pairwise_due` — the tasks that are due are these, in this order;
* `claims_take_first` — what a claim takes in any state that is reached.
-/

namespace Outbox.Memory.Traffic

open Outbox.Time

variable {ι κ : Type} {s : Traffic ι κ}

/-- The time of a task has come, and no open claim holds it. -/
def Eligible (s : Traffic ι κ) (t : Task) : Prop :=
  t.scheduledAt < s.queue.now ∧ ∀ k c, s.claims k = some c → t ∉ c.tasks

/-- The older task comes first, and of one age the one that was committed first. -/
def Precedes (s : Traffic ι κ) (a b : Task) : Prop :=
  a.enqueuedAt < b.enqueuedAt ∨
    a.enqueuedAt = b.enqueuedAt ∧ s.committed.idxOf a < s.committed.idxOf b

theorem Precedes.asymm {a b : Task} (h : s.Precedes a b) : ¬s.Precedes b a := by
  rcases h with hage | ⟨hage, hplace⟩
  · rintro (hage' | ⟨hage', -⟩)
    · exact Timestamp.lt_asymm hage hage'
    · exact Timestamp.lt_irrefl _ (hage' ▸ hage)
  · rintro (hage' | ⟨-, hplace'⟩)
    · exact Timestamp.lt_irrefl _ (hage ▸ hage')
    · exact Nat.lt_asymm hplace hplace'

/-- Elements stand in a list by their places. -/
theorem pairwise_idxOf {α : Type} [DecidableEq α] {l : List α} (h : l.Nodup) :
    l.Pairwise fun a b => l.idxOf a < l.idxOf b := by
  refine List.pairwise_iff_getElem.mpr fun i j hi hj hlt => ?_
  rwa [h.idxOf_getElem, h.idxOf_getElem]

namespace Recorded

/-- What is due is what may be claimed. -/
theorem mem_due (h : s.Recorded) {t : Task} :
    t ∈ s.queue.due ↔ t ∈ s.queue.tasks ∧ s.Eligible t := by
  rw [Queue.mem_due, Queue.isDue, Bool.and_eq_true, decide_eq_true_iff, decide_eq_true_iff]
  refine and_congr_right fun ht => and_congr_right fun _ => ?_
  have hheld : t.id ∈ s.queue.locked ↔ ∃ k c, s.claims k = some c ∧ t ∈ c.tasks := by
    rw [h.locks.locked_iff]
    refine exists_congr fun k => exists_congr fun c => ?_
    exact and_congr_right fun hc => h.mem_ids hc ht
  rw [hheld]
  push Not
  rfl

/-- It stands in the order in which it is claimed. -/
theorem pairwise_due (h : s.Recorded) : s.queue.due.Pairwise s.Precedes := by
  have hplaces : (s.queue.tasks.filter s.queue.isDue).Pairwise fun a b =>
      s.committed.idxOf a < s.committed.idxOf b :=
    (pairwise_idxOf h.committed_nodup.of_map).sublist (List.filter_sublist.trans h.tasks)
  exact s.queue.byAge_due.pairwise hplaces

end Recorded

variable [DecidableEq ι] [DecidableEq κ]

/-- **A claim takes the first tasks**, in every state that is reached, whatever was asked of other
claims: of the eligible ones as many as the limit says, in order, so that none of those left behind
precedes one that is taken.  And it does not matter whether they are taken at once or by two claims,
the first of which is still open. -/
theorem claims_take_first (now : Timestamp) (es : List (Event ι κ)) (limit : Int) :
    let s : Traffic ι κ := (start now).runAny es
    ∃ eligible : List Task, (∀ t, t ∈ eligible ↔ t ∈ s.queue.tasks ∧ s.Eligible t) ∧
      eligible.Pairwise s.Precedes ∧
      (s.queue.claimDue limit).1.tasks = eligible.take limit.toNat ∧
      (∀ t ∈ eligible, t ∉ (s.queue.claimDue limit).1.tasks →
        ∀ t' ∈ (s.queue.claimDue limit).1.tasks, ¬s.Precedes t t') ∧
      ∀ a b : Nat, (s.queue.claimDue a).1.tasks ++ ((s.queue.claimDue a).2.claimDue b).1.tasks
        = (s.queue.claimDue (a + b : Nat)).1.tasks := by
  intro s
  have h : s.Recorded := recorded_runAny now es
  refine ⟨s.queue.due, fun t => h.mem_due, h.pairwise_due, rfl, ?_,
    Queue.claimDue_split h.tasks_nodup⟩
  intro t ht hleft t' ht'
  have hsplit := List.take_append_drop limit.toNat s.queue.due
  have hbehind : t ∈ s.queue.due.drop limit.toNat := by
    rw [← hsplit] at ht
    exact (List.mem_append.mp ht).resolve_left hleft
  have hpairwise := h.pairwise_due
  rw [← hsplit] at hpairwise
  exact ((List.pairwise_append.mp hpairwise).2.2 t' ht' t hbehind).asymm

end Outbox.Memory.Traffic
