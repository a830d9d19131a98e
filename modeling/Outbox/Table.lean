/-!
# Tables

Finite maps as lists of pairs in ascending order of keys.  `insert` keeps the order and replaces the
value of a key that is there already, so a table shows each key once, and two tables built by
insertion that answer every `find?` alike are the same list.

* `find?_insert`, `find?_erase` — what looking up gives after a change, for the key that was changed
  and for every other;
* `mem_of_find?`, `mem_of_mem_insert` — where the pairs of a table come from.
-/

namespace Outbox

/-- A finite map. -/
abbrev Table (κ α : Type) := List (κ × α)

namespace Table

variable {κ α : Type}

/-- The value of a key. -/
def find? [DecidableEq κ] (t : Table κ α) (k : κ) : Option α :=
  match t with
  | [] => none
  | (k', a) :: rest => if k' = k then some a else find? rest k

/-- Whether a key has a value. -/
def has [DecidableEq κ] (t : Table κ α) (k : κ) : Bool := (find? t k).isSome

/-- The keys, in ascending order. -/
def keys (t : Table κ α) : List κ := t.map Prod.fst

/-- Gives a key a value. -/
def insert [LT κ] [DecidableEq κ] [DecidableLT κ] (t : Table κ α) (k : κ) (a : α) : Table κ α :=
  match t with
  | [] => [(k, a)]
  | (k', a') :: rest =>
    if k' = k then (k, a) :: rest
    else if k < k' then (k, a) :: (k', a') :: rest
    else (k', a') :: insert rest k a

/-- Takes a key away. -/
def erase [DecidableEq κ] (t : Table κ α) (k : κ) : Table κ α := t.filter fun p => p.1 ≠ k

/-- The table of a list of pairs; of two pairs with one key the later counts. -/
def ofList [LT κ] [DecidableEq κ] [DecidableLT κ] (ps : List (κ × α)) : Table κ α :=
  ps.foldl (fun t p => insert t p.1 p.2) []

/-! ### Looking up after a change -/

variable [DecidableEq κ]

@[simp] theorem find?_nil (k : κ) : find? ([] : Table κ α) k = none := rfl

theorem find?_cons (p : κ × α) (t : Table κ α) (k : κ) :
    find? (p :: t) k = if p.1 = k then some p.2 else find? t k := rfl

theorem find?_insert [LT κ] [DecidableLT κ] (t : Table κ α) (k k' : κ) (a : α) :
    find? (insert t k a) k' = if k = k' then some a else find? t k' := by
  induction t with
  | nil => simp [insert, find?_cons]
  | cons p rest ih =>
    obtain ⟨j, b⟩ := p
    by_cases h : j = k
    · subst h
      by_cases h' : j = k' <;> simp [insert, find?_cons, h']
    · by_cases hlt : k < j
      · simp [insert, h, hlt, find?_cons]
      · rw [insert, if_neg h, if_neg hlt, find?_cons, find?_cons, ih]
        by_cases hj : j = k'
        · subst hj
          simp [Ne.symm h]
        · simp [hj]

theorem find?_erase (t : Table κ α) (k k' : κ) :
    find? (erase t k) k' = if k = k' then none else find? t k' := by
  induction t with
  | nil => simp [erase]
  | cons p rest ih =>
    obtain ⟨j, b⟩ := p
    by_cases h : j = k
    · subst h
      have hstep : erase ((j, b) :: rest) j = erase rest j := by simp [erase]
      rw [hstep, ih, find?_cons]
      by_cases h' : j = k' <;> simp [h']
    · have hstep : erase ((j, b) :: rest) k = (j, b) :: erase rest k := by simp [erase, h]
      rw [hstep, find?_cons, find?_cons, ih]
      by_cases hj : j = k'
      · subst hj
        simp [Ne.symm h]
      · simp [hj]

/-! ### The pairs of a table -/

theorem mem_of_find? {t : Table κ α} {k : κ} {a : α} (h : find? t k = some a) : (k, a) ∈ t := by
  induction t with
  | nil => cases h
  | cons p t ih =>
    rw [find?_cons] at h
    split at h
    · rename_i hk
      cases h
      subst hk
      exact List.mem_cons_self
    · exact List.mem_cons_of_mem _ (ih h)

theorem mem_of_mem_insert [LT κ] [DecidableLT κ] {t : Table κ α} {k : κ} {a : α} {p : κ × α}
    (h : p ∈ insert t k a) : p = (k, a) ∨ p ∈ t := by
  induction t with
  | nil => exact .inl (List.mem_singleton.mp h)
  | cons q t ih =>
    rw [insert] at h
    split at h
    · exact (List.mem_cons.mp h).imp_right (List.mem_cons_of_mem _)
    · split at h
      · exact List.mem_cons.mp h
      · cases List.mem_cons.mp h with
        | inl h => exact .inr (h ▸ List.mem_cons_self)
        | inr h => exact (ih h).imp_right (List.mem_cons_of_mem _)

end Table

end Outbox
