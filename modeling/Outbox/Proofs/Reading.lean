import Mathlib.Data.List.Forall2
import Mathlib.Data.List.Perm.Basic

/-!
# Values that are read in turn

What is read in two steps, and what is read element by element.

* `bind_eq_ok_iff` — the second step goes by what the first one gave;
* `mapM_eq_some_iff`, `exists_mapM` — a list can be read if its elements can;
* `perm_mapM` — in another order the same elements are read.
-/

namespace Outbox

/-- A value that is read in two steps. -/
theorem bind_eq_ok_iff {ε α β : Type} {x : Except ε α} {f : α → Except ε β} {b : β} :
    (x >>= f) = .ok b ↔ ∃ a, x = .ok a ∧ f a = .ok b := by
  cases x with
  | error e => exact iff_of_false nofun nofun
  | ok a => exact ⟨fun h => ⟨a, rfl, h⟩, fun ⟨_, ha, h⟩ => Except.ok.inj ha ▸ h⟩

section

variable {α β : Type} {f : α → Option β} {l l' : List α} {bs : List β}

/-- Elements that can all be read make a list that can. -/
theorem exists_mapM (h : ∀ a ∈ l, ∃ b, f a = some b) :
    ∃ bs, l.mapM f = some bs ∧ ∀ b, b ∈ bs ↔ ∃ a ∈ l, f a = some b := by
  induction l with
  | nil => exact ⟨[], rfl, by simp⟩
  | cons a l ih =>
      obtain ⟨b, hb⟩ := h a List.mem_cons_self
      obtain ⟨bs, hbs, hmem⟩ := ih fun c hc => h c (List.mem_cons_of_mem a hc)
      refine ⟨b :: bs, ?_, fun c => ?_⟩
      · rw [List.mapM_cons, hb, hbs]
        rfl
      · rw [List.mem_cons, hmem, List.exists_mem_cons_iff, hb, Option.some.injEq, eq_comm]

/-- A list is read element by element. -/
theorem mapM_eq_some_iff : l.mapM f = some bs ↔ List.Forall₂ (fun a b => f a = some b) l bs := by
  induction l generalizing bs with
  | nil => rw [List.mapM_nil, List.forall₂_nil_left_iff, Option.pure_def, Option.some.injEq, eq_comm]
  | cons a l ih =>
      rw [List.mapM_cons, List.forall₂_cons_left_iff]
      simp only [← ih, Option.bind_eq_bind, Option.bind_eq_some_iff, Option.pure_def,
        Option.some.injEq]
      constructor
      · rintro ⟨b, hb, cs, hcs, rfl⟩
        exact ⟨b, cs, hb, hcs, rfl⟩
      · rintro ⟨b, cs, hb, hcs, rfl⟩
        exact ⟨b, hb, cs, hcs, rfl⟩

/-- **In another order** the same elements are read. -/
theorem perm_mapM (h : l.Perm l') (hread : l.mapM f = some bs) :
    ∃ bs', l'.mapM f = some bs' ∧ bs'.Perm bs := by
  obtain ⟨bs', hread', hperm⟩ := List.perm_comp_forall₂ h.symm (mapM_eq_some_iff.mp hread)
  exact ⟨bs', mapM_eq_some_iff.mpr hread', hperm⟩

end

end Outbox
