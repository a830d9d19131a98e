import Mathlib.Tactic.Common
import Mathlib.Data.List.Basic
import Outbox.Table

/-!
# Tables that were filled from lists

A table is looked up key by key, so what a bulk change does is said as what it does to `find?`.

* `find?_foldl_insert` — after a list of insertions the last one at a key counts, and a key that was
  not inserted keeps its value;
* `find?_ofList_of_mem_iff`, `find?_ofList_graph` — the table of some keys under a partial function
  answers that function on these keys, and nothing elsewhere.
-/

namespace Outbox.Table

variable {κ α : Type} [DecidableEq κ]

/-- Of two lists of pairs the first is looked into before the second. -/
theorem find?_append (s t : Table κ α) (k : κ) :
    find? (s ++ t) k = (find? s k).or (find? t k) := by
  induction s with
  | nil => rfl
  | cons p s ih =>
      rw [List.cons_append, find?_cons, find?_cons, ih]
      split
      · rfl
      · rfl

theorem find?_eq_none_iff {t : Table κ α} {k : κ} : find? t k = none ↔ k ∉ keys t := by
  induction t with
  | nil => simp [keys]
  | cons p t ih =>
      rw [find?_cons]
      by_cases hk : p.1 = k
      · simp [keys, hk]
      · rw [if_neg hk, ih]
        simp [keys, Ne.symm hk]

/-- Looking up in a table whose values were passed through a function. -/
theorem find?_map {β : Type} (f : α → β) (t : Table κ α) (k : κ) :
    find? (t.map fun p => (p.1, f p.2)) k = (find? t k).map f := by
  induction t with
  | nil => rfl
  | cons p t ih =>
      rw [List.map_cons, find?_cons, find?_cons, ih]
      split
      · rfl
      · rfl

variable [LT κ] [DecidableLT κ]

/-- **Insertions in turn.**  The pair inserted last at a key is found first. -/
theorem find?_foldl_insert (ps : List (κ × α)) (t : Table κ α) (k : κ) :
    find? (ps.foldl (fun t p => insert t p.1 p.2) t) k = find? (ps.reverse ++ t) k := by
  induction ps generalizing t with
  | nil => rfl
  | cons p ps ih =>
      rw [List.foldl_cons, ih, List.reverse_cons, List.append_assoc, find?_append, find?_append,
        find?_insert]
      rfl

/-- The keys of a table that was filled from a list are those of the list. -/
theorem mem_keys_ofList {ps : List (κ × α)} {k : κ} : k ∈ keys (ofList ps) ↔ k ∈ keys ps := by
  rw [← not_iff_not, ← find?_eq_none_iff, ofList, find?_foldl_insert, List.append_nil,
    find?_eq_none_iff, keys, keys, List.map_reverse, List.mem_reverse]

/-- **A partial function on some keys.**  A table that was filled with the pairs of its graph at these
keys, in whatever order and however often, answers it there, and nothing elsewhere. -/
theorem find?_ofList_of_mem_iff {ps : List (κ × α)} {f : κ → Option α} {ks : List κ}
    (h : ∀ p : κ × α, p ∈ ps ↔ p.1 ∈ ks ∧ f p.1 = some p.2) (k : κ) :
    find? (ofList ps) k = if k ∈ ks then f k else none := by
  cases hk : find? (ofList ps) k with
  | some a =>
      rw [ofList, find?_foldl_insert, List.append_nil] at hk
      obtain ⟨hmem, hf⟩ := (h (k, a)).mp (List.mem_reverse.mp (mem_of_find? hk))
      rw [if_pos hmem, hf]
  | none =>
      rw [find?_eq_none_iff, mem_keys_ofList] at hk
      split
      · rename_i hmem
        cases hf : f k with
        | none => rfl
        | some a => exact absurd (List.mem_map.mpr ⟨(k, a), (h (k, a)).mpr ⟨hmem, hf⟩, rfl⟩) hk
      · rfl

theorem find?_ofList_graph (f : κ → Option α) (ks : List κ) (k : κ) :
    find? (ofList (ks.filterMap fun i => (f i).map fun a => (i, a))) k
      = if k ∈ ks then f k else none := by
  refine find?_ofList_of_mem_iff (fun p => ?_) k
  rw [List.mem_filterMap]
  constructor
  · rintro ⟨i, hi, hp⟩
    obtain ⟨a, ha, rfl⟩ := Option.map_eq_some_iff.mp hp
    exact ⟨hi, ha⟩
  · rintro ⟨hk, hf⟩
    exact ⟨p.1, hk, by rw [hf]; rfl⟩

end Outbox.Table
