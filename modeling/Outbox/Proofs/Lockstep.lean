import Mathlib.Data.List.Forall2
import Outbox.Proofs.Action

/-!
# Two actions in lockstep

What two runs have in common is carried from state to state by a relation: two actions are in
lockstep if on related states they come to the same, and leave related states behind.  Coming to the
same is one error, or values that a second relation relates; what a later action makes of a value then
needs to respect that relation only.

* `map_eq_of_forall₂` — what is the same of lists that correspond element by element;
* `Lockstep.bind` — a sequence keeps the step if its parts do.
-/

namespace Outbox

variable {σ α β : Type}

/-! ### Lists that correspond -/

theorem map_eq_of_forall₂ {γ : Type} {Q : α → β → Prop} {l : List α} {l' : List β} {f : α → γ}
    {g : β → γ} (h : List.Forall₂ Q l l') (hfg : ∀ a b, Q a b → f a = g b) :
    l.map f = l'.map g := by
  induction h with
  | nil => rfl
  | cons hab _ ih => rw [List.map_cons, List.map_cons, hfg _ _ hab, ih]

theorem isEmpty_of_forall₂ {Q : α → β → Prop} {l : List α} {l' : List β}
    (h : List.Forall₂ Q l l') : l.isEmpty = l'.isEmpty := by
  cases h with
  | nil => rfl
  | cons _ _ => rfl

/-! ### Outcomes and actions -/

/-- Two outcomes are one error, or values that are related. -/
inductive Matching (Q : α → β → Prop) : Except Error α → Except Error β → Prop
  | ok {a : α} {b : β} (h : Q a b) : Matching Q (.ok a) (.ok b)
  | error (e : Error) : Matching Q (.error e) (.error e)

theorem matching_eq {r r' : Except Error α} : Matching Eq r r' ↔ r = r' := by
  constructor
  · intro h
    cases h with
    | ok heq => rw [heq]
    | error e => rfl
  · intro h
    subst h
    cases r with
    | ok a => exact .ok rfl
    | error e => exact .error e

namespace Action

/-- On related states two actions come to matching outcomes, and leave related states. -/
def Lockstep (R : σ → σ → Prop) (Q : α → β → Prop) (a : Action σ α) (b : Action σ β) : Prop :=
  ∀ s s', R s s' → Matching Q (a.exec s).1 (b.exec s').1 ∧ R (a.exec s).2 (b.exec s').2

namespace Lockstep

variable {γ δ : Type} {R : σ → σ → Prop} {Q : α → β → Prop} {P : γ → δ → Prop}

theorem pure {a : α} {b : β} (h : Q a b) : Lockstep R Q (pure a) (pure b) := by
  intro s s' hs
  exact ⟨.ok h, hs⟩

theorem throw (e : Error) : Lockstep R Q (throw e) (throw e) := by
  intro s s' hs
  exact ⟨.error e, hs⟩

/-- **Sequencing.**  The second actions need to be in lockstep for related values only. -/
theorem bind {a : Action σ α} {b : Action σ β} {f : α → Action σ γ} {g : β → Action σ δ}
    (h : Lockstep R Q a b) (hnext : ∀ x y, Q x y → Lockstep R P (f x) (g y)) :
    Lockstep R P (a >>= f) (b >>= g) := by
  intro s s' hs
  obtain ⟨hvalue, hstate⟩ := h s s' hs
  rw [exec_bind, exec_bind]
  generalize a.exec s = p at hvalue hstate
  generalize b.exec s' = p' at hvalue hstate
  obtain ⟨r, t⟩ := p
  obtain ⟨r', t'⟩ := p'
  cases hvalue with
  | ok hxy => exact hnext _ _ hxy t t' hstate
  | error e => exact ⟨.error e, hstate⟩

end Lockstep

end Action

end Outbox
