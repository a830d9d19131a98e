import Outbox.Error

/-!
# Actions

An action reads and changes a state, and ends with a value or an error.  What it changed before an
error stays changed: a request that was sent has been sent.
-/

namespace Outbox

/-- A computation on a state that may fail. -/
abbrev Action (σ α : Type) := ExceptT Error (StateM σ) α

namespace Action

variable {σ τ α : Type}

/-- Carries an action out. -/
def exec (a : Action σ α) (s : σ) : Except Error α × σ := Id.run (StateT.run (ExceptT.run a) s)

/-- The action with the given outcome. -/
def ofFun (f : σ → Except Error α × σ) : Action σ α := ExceptT.mk fun s => pure (f s)

/-- An action that only reads. -/
def ofView (f : σ → Except Error α) : Action σ α := ofFun fun s => (f s, s)

/-- An action that cannot fail. -/
def change (f : σ → α × σ) : Action σ α := ofFun fun s => (.ok (f s).1, (f s).2)

/-- Carries an action out and gives its error as a value. -/
def attempt (a : Action σ α) : Action σ (Except Error α) :=
  ofFun fun s => (.ok (a.exec s).1, (a.exec s).2)

end Action

/-- A part of a larger state. -/
structure Part (σ τ : Type) where
  get : σ → τ
  set : σ → τ → σ

/-- A part of a part. -/
def Part.comp {σ τ υ : Type} (p : Part σ τ) (q : Part τ υ) : Part σ υ :=
  ⟨fun s => q.get (p.get s), fun s u => p.set s (q.set (p.get s) u)⟩

/-- An action on a part, as an action on the whole. -/
def Action.within {σ τ α : Type} (p : Part σ τ) (a : Action τ α) : Action σ α :=
  Action.ofFun fun s => ((a.exec (p.get s)).1, p.set s (a.exec (p.get s)).2)

end Outbox
