import Mathlib.Data.List.Nodup
import Mathlib.Data.List.Basic
import Outbox.Indexer

/-!
# Each element where it first stands

Tasks name entities in any order and as often as they like; what is read and written for them goes
by `distinct`, which keeps the first of equal elements.

* `mem_distinct`, `nodup_distinct` — nothing is lost, and nothing is there twice;
* `firsts_distinct_filter` — the elements with a property stand in the order of their first places;
* `distinct_append` — what a second list adds to a first one.
-/

namespace Outbox

variable {α : Type} [DecidableEq α]

theorem mem_distinct {l : List α} {a : α} : a ∈ distinct l ↔ a ∈ l := by
  induction l with
  | nil => rfl
  | cons b l ih =>
      rw [distinct, List.mem_cons, List.mem_cons, List.mem_filter, ih]
      constructor
      · rintro (h | ⟨h, -⟩)
        · exact .inl h
        · exact .inr h
      · intro h
        by_cases hab : a = b
        · exact .inl hab
        · exact .inr ⟨h.resolve_left hab, decide_eq_true hab⟩

theorem nodup_distinct (l : List α) : (distinct l).Nodup := by
  induction l with
  | nil => exact List.nodup_nil
  | cons a l ih =>
      rw [distinct, List.nodup_cons]
      exact ⟨by simp, ih.filter _⟩

theorem distinct_of_nodup {l : List α} (h : l.Nodup) : distinct l = l := by
  induction l with
  | nil => rfl
  | cons a l ih =>
      obtain ⟨hfresh, hrest⟩ := List.nodup_cons.mp h
      rw [distinct, ih hrest, List.filter_eq_self.mpr]
      intro b hb
      have hne : b ≠ a := fun heq => hfresh (heq ▸ hb)
      simpa using hne

/-- What is left out does not matter to where the others first stand. -/
theorem distinct_filter (p : α → Bool) (l : List α) :
    distinct (l.filter p) = (distinct l).filter p := by
  induction l with
  | nil => rfl
  | cons a l ih =>
      by_cases h : p a = true
      · rw [List.filter_cons_of_pos h, distinct, distinct, List.filter_cons_of_pos h, ih,
          List.filter_filter, List.filter_filter]
        simp only [Bool.and_comm]
      · rw [List.filter_cons_of_neg h, distinct, List.filter_cons_of_neg h, ih, List.filter_filter]
        refine List.filter_congr fun b _ => ?_
        by_cases hab : b = a
        · simp [hab, h]
        · simp [hab]

/-- **A second list adds what the first does not have.** -/
theorem distinct_append (l l' : List α) :
    distinct (l ++ l') = distinct l ++ (distinct l').filter fun a => a ∉ l := by
  induction l with
  | nil => simp [distinct]
  | cons a l ih =>
      rw [List.cons_append, distinct, distinct, ih, List.filter_append, List.filter_filter,
        List.cons_append]
      simp [not_or]

/-! ### The order of first places -/

/-- The elements of a list that have a property: each once, by where it first stands. -/
structure Firsts (l : List α) (p : α → Prop) (firsts : List α) : Prop where
  mem_iff : ∀ a, a ∈ firsts ↔ a ∈ l ∧ p a
  order : firsts.Pairwise fun a b => l.idxOf a < l.idxOf b

theorem pairwise_distinct (l : List α) :
    (distinct l).Pairwise fun a b => l.idxOf a < l.idxOf b := by
  induction l with
  | nil => exact List.Pairwise.nil
  | cons a l ih =>
      have hne : ∀ b ∈ (distinct l).filter (· ≠ a), a ≠ b := by
        intro b hb
        have hb' := (List.mem_filter.mp hb).2
        exact Ne.symm (by simpa using hb')
      rw [distinct, List.pairwise_cons]
      constructor
      · intro b hb
        rw [List.idxOf_cons_self, List.idxOf_cons_ne l (hne b hb)]
        omega
      · refine (ih.filter _).imp_of_mem fun {b c} hb hc hlt => ?_
        rw [List.idxOf_cons_ne l (hne b hb), List.idxOf_cons_ne l (hne c hc)]
        omega

theorem firsts_distinct_filter (l : List α) (p : α → Prop) [DecidablePred p] :
    Firsts l p (distinct (l.filter fun a => p a)) where
  mem_iff a := by simp [mem_distinct]
  order := by
    rw [distinct_filter]
    exact (pairwise_distinct l).filter _

end Outbox
