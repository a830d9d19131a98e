import Mathlib.Data.List.Nodup
import Outbox.Memory.Queue
import Outbox.Proofs.Time.Order

/-!
# The order in which tasks are claimed

Tasks go by the time at which they were enqueued, and those of one time in the order in which they
stand in the queue.  `ByAge` says this of two lists without saying how to sort.

* `ByAge.unique` — there is only one such order;
* `ByAge.filter` — leaving tasks out does not change the order of the others;
* `ByAge.pairwise` — who comes before whom;
* `Queue.byAge_due` — it is the order of the tasks that may be claimed;
* `Queue.claimDue_split` — two claims one after the other take what one claim would.
-/

namespace Outbox.Memory

open Outbox.Time

/-- The same tasks, the oldest first, and those of one age in the order in which they were given. -/
structure ByAge (ts ordered : List Task) : Prop where
  perm : ordered.Perm ts
  sorted : ordered.Pairwise fun a b => a.enqueuedAt ≤ b.enqueuedAt
  ties : ∀ v, ordered.filter (fun t => t.enqueuedAt = v) = ts.filter fun t => t.enqueuedAt = v

namespace ByAge

variable {ts ds ds' : List Task}

theorem filter (h : ByAge ts ds) (p : Task → Bool) : ByAge (ts.filter p) (ds.filter p) where
  perm := h.perm.filter p
  sorted := h.sorted.filter p
  ties v := by
    rw [List.filter_filter, List.filter_filter]
    have hcomm : ∀ l : List Task, l.filter (fun t => decide (t.enqueuedAt = v) && p t)
        = (l.filter fun t => decide (t.enqueuedAt = v)).filter p := by
      intro l
      rw [List.filter_filter]
      simp only [Bool.and_comm]
    rw [hcomm, hcomm, h.ties v]

/-- The first of an order is as old as any. -/
theorem head_le {t : Task} (h : (t :: ds).Pairwise fun a b : Task => a.enqueuedAt ≤ b.enqueuedAt)
    {t' : Task} (ht' : t' ∈ t :: ds) : t.enqueuedAt ≤ t'.enqueuedAt := by
  rcases List.mem_cons.mp ht' with heq | hmem
  · rw [heq]
    exact .inr ⟨rfl, Nat.le_refl _⟩
  · exact (List.pairwise_cons.mp h).1 t' hmem

/-- **There is only one order by age.** -/
theorem unique (h : ByAge ts ds) (h' : ByAge ts ds') : ds = ds' := by
  -- what is left to compare are two sorted lists that show the same for every age
  have hperm : ds.Perm ds' := h.perm.trans h'.perm.symm
  have hties : ∀ v, ds.filter (fun t => t.enqueuedAt = v) = ds'.filter fun t => t.enqueuedAt = v :=
    fun v => (h.ties v).trans (h'.ties v).symm
  have hsorted := h.sorted
  have hsorted' := h'.sorted
  clear h h'
  induction ds generalizing ds' with
  | nil => exact hperm.nil_eq
  | cons t ds ih =>
      cases ds' with
      | nil => exact absurd hperm.symm.nil_eq (List.cons_ne_nil t ds).symm
      | cons t' ds' =>
          have hage : t.enqueuedAt = t'.enqueuedAt := by
            have hle := head_le hsorted (hperm.mem_iff.mpr List.mem_cons_self)
            have hle' := head_le hsorted' (hperm.mem_iff.mp List.mem_cons_self)
            exact Timestamp.le_antisymm hle hle'
          have hhead : t = t' := by
            have hfirst := hties t.enqueuedAt
            rw [List.filter_cons_of_pos (by simp),
              List.filter_cons_of_pos (by simp [hage])] at hfirst
            exact (List.cons.inj hfirst).1
          subst hhead
          have htail : ds = ds' := by
            refine ih hperm.cons_inv (fun v => ?_) (List.pairwise_cons.mp hsorted).2
              (List.pairwise_cons.mp hsorted').2
            have hv := hties v
            by_cases hage : t.enqueuedAt = v
            · rw [List.filter_cons_of_pos (by simpa using hage),
                List.filter_cons_of_pos (by simpa using hage)] at hv
              exact (List.cons.inj hv).2
            · rwa [List.filter_cons_of_neg (by simpa using hage),
                List.filter_cons_of_neg (by simpa using hage)] at hv
          rw [htail]

/-- **Who comes before whom.**  Tasks of different age stand by their age, and those of one age as they
stood before. -/
theorem pairwise (h : ByAge ts ds) {before : Task → Task → Prop} (hbefore : ts.Pairwise before) :
    ds.Pairwise fun a b =>
      a.enqueuedAt < b.enqueuedAt ∨ a.enqueuedAt = b.enqueuedAt ∧ before a b := by
  refine List.pairwise_iff_forall_sublist.mpr fun {a b} hab => ?_
  have hle : a.enqueuedAt ≤ b.enqueuedAt := List.pairwise_iff_forall_sublist.mp h.sorted hab
  rcases Timestamp.lt_or_eq_of_le hle with hlt | heq
  · exact .inl hlt
  · -- two tasks of one age stand in the same order in both lists
    have hties := hab.filter fun t => decide (t.enqueuedAt = b.enqueuedAt)
    rw [h.ties, List.filter_cons_of_pos (by simpa using heq),
      List.filter_cons_of_pos (by simp), List.filter_nil] at hties
    exact .inr ⟨heq, List.pairwise_iff_forall_sublist.mp hbefore
      (hties.trans List.filter_sublist)⟩

end ByAge

theorem older_trans (a b c : Task) (hab : decide (a.enqueuedAt ≤ b.enqueuedAt) = true)
    (hbc : decide (b.enqueuedAt ≤ c.enqueuedAt) = true) :
    decide (a.enqueuedAt ≤ c.enqueuedAt) = true := by
  simp only [decide_eq_true_eq] at *
  exact Timestamp.le_trans hab hbc

theorem older_total (a b : Task) :
    (decide (a.enqueuedAt ≤ b.enqueuedAt) || decide (b.enqueuedAt ≤ a.enqueuedAt)) = true := by
  simpa using Timestamp.le_total a.enqueuedAt b.enqueuedAt

/-- **Sorting by age.**  It is stable, so tasks of one age stay as they were. -/
theorem byAge_mergeSort (ts : List Task) :
    ByAge ts (ts.mergeSort fun a b => a.enqueuedAt ≤ b.enqueuedAt) where
  perm := List.mergeSort_perm ts _
  sorted :=
    (List.pairwise_mergeSort older_trans older_total ts).imp fun hle => of_decide_eq_true hle
  ties v := by
    have hsame : (ts.filter fun t => t.enqueuedAt = v).Pairwise
        fun a b => decide (a.enqueuedAt ≤ b.enqueuedAt) = true := by
      refine List.pairwise_of_forall_mem_list fun a ha b hb => ?_
      have hav := (List.mem_filter.mp ha).2
      have hbv := (List.mem_filter.mp hb).2
      simp only [decide_eq_true_eq] at hav hbv ⊢
      rw [hav, hbv]
      exact .inr ⟨rfl, Nat.le_refl _⟩
    -- the tasks of one age are in order already, so sorting leaves them as they are
    have hsub := List.sublist_mergeSort older_trans older_total hsame List.filter_sublist
    have hfilter := hsub.filter fun t => decide (t.enqueuedAt = v)
    rw [List.filter_filter] at hfilter
    simp only [Bool.and_self] at hfilter
    refine (hfilter.eq_of_length ?_).symm
    exact ((List.mergeSort_perm ts _).filter _).length_eq.symm

/-- Without the first elements those are left that come after them. -/
theorem filter_notMem_take {α β : Type} [DecidableEq β] {key : α → β} {l : List α}
    (h : (l.map key).Nodup) (n : Nat) :
    (l.filter fun a => key a ∉ (l.take n).map key) = l.drop n := by
  have hsplit : l.take n ++ l.drop n = l := List.take_append_drop n l
  have hapart : ∀ a ∈ l.drop n, key a ∉ (l.take n).map key := by
    intro a ha hmem
    rw [← hsplit, List.map_append] at h
    exact (List.disjoint_of_nodup_append h) hmem (List.mem_map_of_mem ha)
  have hfront : (l.take n).filter (fun a => key a ∉ (l.take n).map key) = [] := by
    refine List.filter_eq_nil_iff.mpr fun a ha => ?_
    have hmem : key a ∈ (l.take n).map key := List.mem_map_of_mem ha
    simpa using hmem
  have hback : (l.drop n).filter (fun a => key a ∉ (l.take n).map key) = l.drop n := by
    refine List.filter_eq_self.mpr fun a ha => ?_
    exact decide_eq_true (hapart a ha)
  calc (l.filter fun a => key a ∉ (l.take n).map key)
      = (l.take n ++ l.drop n).filter fun a => key a ∉ (l.take n).map key := by rw [hsplit]
    _ = l.drop n := by rw [List.filter_append, hfront, hback, List.nil_append]

namespace Queue

theorem byAge_due (q : Queue) : ByAge (q.tasks.filter q.isDue) q.due := byAge_mergeSort _

/-- Tasks that were enqueued in order are due in this order. -/
theorem due_of_pairwise {q : Queue} {ts : List Task} (hts : q.tasks.filter q.isDue = ts)
    (h : ts.Pairwise fun a b => decide (a.enqueuedAt ≤ b.enqueuedAt) = true) : q.due = ts := by
  rw [due, hts]
  exact List.mergeSort_of_pairwise h

/-- What is claimed is not due any more, and nothing else changes. -/
theorem due_claimDue {q : Queue} (hnodup : (q.tasks.map Task.id).Nodup) (limit : Int) :
    (q.claimDue limit).2.due = q.due.drop limit.toNat := by
  have hdue : (q.due.map Task.id).Nodup :=
    (q.byAge_due.perm.map Task.id).nodup_iff.mpr ((List.filter_sublist.map _).nodup hnodup)
  have hisDue : ∀ t, (q.claimDue limit).2.isDue t
      = (decide (t.id ∉ (q.due.take limit.toNat).map Task.id) && q.isDue t) := by
    intro t
    have hlocked : t.id ∉ (q.claimDue limit).2.locked ↔
        t.id ∉ (q.due.take limit.toNat).map Task.id ∧ t.id ∉ q.locked := by
      show t.id ∉ q.locked ++ (q.due.take limit.toNat).map Task.id ↔ _
      rw [List.mem_append, not_or, and_comm]
    rw [isDue, isDue, decide_eq_decide.mpr hlocked, Bool.decide_and, Bool.and_left_comm]
    rfl
  have hage := q.byAge_due.filter fun t => t.id ∉ (q.due.take limit.toNat).map Task.id
  rw [List.filter_filter, ← funext hisDue, filter_notMem_take hdue] at hage
  exact (q.claimDue limit).2.byAge_due.unique hage

/-- **Two claims one after the other**, the first still open, take what one claim would. -/
theorem claimDue_split {q : Queue} (hnodup : (q.tasks.map Task.id).Nodup) (a b : Nat) :
    (q.claimDue a).1.tasks ++ ((q.claimDue a).2.claimDue b).1.tasks
      = (q.claimDue (a + b : Nat)).1.tasks := by
  show q.due.take a ++ (q.claimDue a).2.due.take b = q.due.take (a + b)
  rw [due_claimDue hnodup, Int.toNat_natCast, List.take_add]

end Queue

end Outbox.Memory
