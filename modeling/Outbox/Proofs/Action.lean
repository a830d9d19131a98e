import Mathlib.Tactic.Common
import Outbox.Backend

/-!
# Carrying actions out

What an action does to a state, said once for each way of building actions.  After these equations a
proof about a composed action never opens the transformer stack under it:

* `exec_bind` — a sequence stops at the first error, and keeps what was changed before it;
* `exec_within` — an action on a part changes that part only;
* `exec_attempt` — an error that is given as a value is no error.
-/

namespace Outbox.Action

variable {σ τ α β : Type}

@[simp] theorem exec_ofFun (f : σ → Except Error α × σ) (s : σ) : (ofFun f).exec s = f s := rfl

@[simp] theorem exec_ofView (f : σ → Except Error α) (s : σ) :
    (ofView f).exec s = (f s, s) := rfl

@[simp] theorem exec_change (f : σ → α × σ) (s : σ) :
    (change f).exec s = (.ok (f s).1, (f s).2) := rfl

@[simp] theorem exec_pure (a : α) (s : σ) : (pure a : Action σ α).exec s = (.ok a, s) := rfl

@[simp] theorem exec_throw (e : Error) (s : σ) :
    (throw e : Action σ α).exec s = (.error e, s) := rfl

@[simp] theorem exec_attempt (a : Action σ α) (s : σ) :
    a.attempt.exec s = (.ok (a.exec s).1, (a.exec s).2) := rfl

@[simp] theorem exec_within (p : Part σ τ) (a : Action τ α) (s : σ) :
    (a.within p).exec s = ((a.exec (p.get s)).1, p.set s (a.exec (p.get s)).2) := rfl

/-- **Sequencing.**  The second action runs only where the first gave a value, on the state that the
first left behind. -/
theorem exec_bind (a : Action σ α) (f : α → Action σ β) (s : σ) :
    (a >>= f).exec s = match a.exec s with
      | (.ok x, s') => (f x).exec s'
      | (.error e, s') => (.error e, s') := by
  simp only [exec, bind, ExceptT.bind, ExceptT.mk, ExceptT.run, StateT.run, StateT.bind, Id.run]
  obtain ⟨r, s'⟩ := a s
  cases r with
  | ok x => rfl
  | error e => rfl

theorem exec_bind_ok {a : Action σ α} {s s' : σ} {x : α} (h : a.exec s = (.ok x, s'))
    (f : α → Action σ β) : (a >>= f).exec s = (f x).exec s' := by
  rw [exec_bind, h]

theorem exec_bind_error {a : Action σ α} {s s' : σ} {e : Error} (h : a.exec s = (.error e, s'))
    (f : α → Action σ β) : (a >>= f).exec s = (.error e, s') := by
  rw [exec_bind, h]

/-- Where the second action changes nothing, a sequence changes what the first does. -/
theorem state_bind {a : Action σ α} {f : α → Action σ β} {s : σ}
    (hf : ∀ x s, ((f x).exec s).2 = s) : ((a >>= f).exec s).2 = (a.exec s).2 := by
  rw [exec_bind]
  rcases a.exec s with ⟨e | x, s'⟩
  · rfl
  · exact hf x s'

/-- An action whose value is passed through a function. -/
theorem exec_bind_pure (a : Action σ α) (f : α → β) (s : σ) :
    (a >>= fun x => pure (f x)).exec s = ((a.exec s).1.map f, (a.exec s).2) := by
  rw [exec_bind]
  rcases a.exec s with ⟨e | x, s'⟩
  · rfl
  · rfl

/-- A view whose value is passed through a function. -/
theorem ofView_bind_pure (f : σ → Except Error α) (g : α → β) :
    (ofView f >>= fun x => pure (g x)) = ofView fun s => (f s).map g := by
  refine ExceptT.ext (funext fun s => ?_)
  show exec (ofView f >>= fun x => pure (g x)) s = _
  rw [exec_bind_pure]
  rfl

end Outbox.Action
