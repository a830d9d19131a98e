import Outbox.Entity
import Outbox.Proofs.Table

/-!
# Tables in order

A table that was filled by insertions shows its keys in ascending order.  So it does not remember in
which order it was filled: two tables that answer every look-up alike are one.

* `sorted_ofList` — the keys of a table that was filled from a list ascend;
* `ofList_perm` — it holds the pairs of the list, if their keys differ;
* `ext_of_sorted` — what is looked up in a table in order is all there is to it.
-/

namespace Outbox

/-- Keys that are ordered as the numbers that they stand for. -/
structure Ranked {κ : Type} [LT κ] (rank : κ → Nat) : Prop where
  lt_iff : ∀ a b, a < b ↔ rank a < rank b
  injective : ∀ a b, rank a = rank b → a = b

theorem EntityId.ranked : Ranked fun i : EntityId => i.uuid.value where
  lt_iff _ _ := Iff.rfl
  injective a b h := by
    cases a
    cases b
    exact congrArg EntityId.mk (Uuid.ext_value h)

namespace Table

variable {κ α : Type} [DecidableEq κ] [LT κ] {rank : κ → Nat} {t t' : Table κ α}

/-- The keys ascend. -/
def Sorted (rank : κ → Nat) (t : Table κ α) : Prop := (keys t).Pairwise fun a b => rank a < rank b

omit [LT κ] in
/-- A key before all others of a table is not in it. -/
theorem find?_eq_none_of_lt {k : κ} (h : ∀ j ∈ keys t, rank k < rank j) : find? t k = none := by
  refine find?_eq_none_iff.mpr fun hmem => ?_
  exact absurd (h k hmem) (Nat.lt_irrefl _)

/-- **Look-ups are all there is** to a table in order. -/
theorem ext_of_sorted (hrank : Ranked rank) (h : Sorted rank t) (h' : Sorted rank t')
    (hfind : ∀ k, find? t k = find? t' k) : t = t' := by
  induction t generalizing t' with
  | nil =>
      cases t' with
      | nil => rfl
      | cons p' t' =>
          have hfirst := hfind p'.1
          rw [find?_nil, find?_cons, if_pos rfl] at hfirst
          cases hfirst
  | cons p t ih =>
      cases t' with
      | nil =>
          have hfirst := hfind p.1
          rw [find?_nil, find?_cons, if_pos rfl] at hfirst
          cases hfirst
      | cons p' t' =>
          obtain ⟨hleast, hrest⟩ := List.pairwise_cons.mp h
          obtain ⟨hleast', hrest'⟩ := List.pairwise_cons.mp h'
          -- the smaller of two first keys would be missing on the other side
          have hkey : p.1 = p'.1 := by
            by_contra hne
            have hrankne : rank p.1 ≠ rank p'.1 := fun heq => hne (hrank.injective _ _ heq)
            by_cases hlt : rank p.1 < rank p'.1
            · have hnone : find? t' p.1 = none :=
                find?_eq_none_of_lt fun j hj => Nat.lt_trans hlt (hleast' j hj)
              have hfirst := hfind p.1
              rw [find?_cons, if_pos rfl, find?_cons, if_neg (Ne.symm hne), hnone] at hfirst
              cases hfirst
            · have hgt : rank p'.1 < rank p.1 := by omega
              have hnone : find? t p'.1 = none :=
                find?_eq_none_of_lt fun j hj => Nat.lt_trans hgt (hleast j hj)
              have hfirst := hfind p'.1
              rw [find?_cons, if_neg hne, hnone, find?_cons, if_pos rfl] at hfirst
              cases hfirst
          have hvalue : p.2 = p'.2 := by
            have hfirst := hfind p.1
            rw [find?_cons, if_pos rfl, find?_cons, if_pos hkey.symm] at hfirst
            exact Option.some.inj hfirst
          have htail : t = t' := by
            refine ih hrest hrest' fun k => ?_
            by_cases hk : p.1 = k
            · subst hk
              rw [find?_eq_none_of_lt hleast, find?_eq_none_of_lt (hkey ▸ hleast')]
            · have hnext := hfind k
              rwa [find?_cons, if_neg hk, find?_cons, if_neg (hkey ▸ hk)] at hnext
          rw [htail, Prod.ext hkey hvalue]

/-! ### Filling a table -/

variable [DecidableLT κ]

theorem mem_keys_insert {k j : κ} {a : α} (h : j ∈ keys (insert t k a)) : j = k ∨ j ∈ keys t := by
  obtain ⟨p, hp, rfl⟩ := List.mem_map.mp h
  cases mem_of_mem_insert hp with
  | inl heq => exact .inl (congrArg Prod.fst heq)
  | inr hmem => exact .inr (List.mem_map_of_mem hmem)

theorem sorted_insert (hrank : Ranked rank) (h : Sorted rank t) (k : κ) (a : α) :
    Sorted rank (insert t k a) := by
  induction t with
  | nil => exact List.pairwise_singleton _ _
  | cons p t ih =>
      obtain ⟨j, b⟩ := p
      obtain ⟨hleast, hrest⟩ := List.pairwise_cons.mp h
      rw [insert]
      split
      · rename_i hjk
        subst hjk
        exact h
      · rename_i hne
        split
        · rename_i hlt
          have hkj := (hrank.lt_iff k j).mp hlt
          refine List.pairwise_cons.mpr ⟨fun i hi => ?_, h⟩
          cases List.mem_cons.mp hi with
          | inl heq => exact heq ▸ hkj
          | inr hmem => exact Nat.lt_trans hkj (hleast i hmem)
        · rename_i hnot
          have hjk : rank j < rank k := by
            have hle : ¬rank k < rank j := fun hlt => hnot ((hrank.lt_iff k j).mpr hlt)
            have hdiff : rank j ≠ rank k := fun heq => hne (hrank.injective j k heq)
            omega
          refine List.pairwise_cons.mpr ⟨fun i hi => ?_, ih hrest⟩
          cases mem_keys_insert hi with
          | inl heq => exact heq ▸ hjk
          | inr hmem => exact hleast i hmem

theorem insert_perm {k : κ} (h : k ∉ keys t) (a : α) : (insert t k a).Perm ((k, a) :: t) := by
  induction t with
  | nil => exact List.Perm.refl _
  | cons p t ih =>
      obtain ⟨hne, hrest⟩ := not_or.mp (mt List.mem_cons.mpr h)
      rw [insert, if_neg (Ne.symm hne)]
      split
      · exact List.Perm.refl _
      · exact ((ih hrest).cons p).trans (List.Perm.swap _ _ _)

/-- A table of pairs with different keys holds these pairs. -/
theorem ofList_perm {ps : List (κ × α)} (h : (keys ps).Nodup) : (ofList ps).Perm ps := by
  have hfold : ∀ t : Table κ α, (∀ k ∈ keys ps, k ∉ keys t) →
      (ps.foldl (fun t p => insert t p.1 p.2) t).Perm (ps ++ t) := by
    induction ps with
    | nil => exact fun t _ => List.Perm.refl _
    | cons p ps ih =>
        intro t ht
        obtain ⟨hfresh, hrest⟩ := List.nodup_cons.mp h
        have hinsert := insert_perm (ht p.1 List.mem_cons_self) p.2
        have htail := ih hrest (insert t p.1 p.2) fun k hk hmem => by
          cases mem_keys_insert hmem with
          | inl heq => exact hfresh (heq ▸ hk)
          | inr hmem => exact ht k (List.mem_cons_of_mem _ hk) hmem
        exact htail.trans ((hinsert.append_left ps).trans List.perm_middle)
  have hall := hfold [] fun k _ => nofun
  rwa [List.append_nil] at hall

theorem sorted_ofList (hrank : Ranked rank) (ps : List (κ × α)) : Sorted rank (ofList ps) := by
  have hfold : ∀ t : Table κ α, Sorted rank t →
      Sorted rank (ps.foldl (fun t p => insert t p.1 p.2) t) := by
    induction ps with
    | nil => exact fun t h => h
    | cons p ps ih => exact fun t h => ih _ (sorted_insert hrank h p.1 p.2)
  exact hfold [] List.Pairwise.nil

end Table

end Outbox
