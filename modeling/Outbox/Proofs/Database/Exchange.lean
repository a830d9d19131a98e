import Outbox.Database.Queue
import Outbox.Database.Store
import Outbox.Proofs.Action

/-!
# Talking to the database

What was sent to the database is kept; what came back for it follows, as a script answers each
statement by what it is at that time.  So the exchanges that took place between two moments can be
read off the script at these moments (`Script.since`).

* `Talks` — exchanges that lead from a script to a script;
* `Says` — what an action says to the database, and how that fits its outcome;
* `says_query`, `says_simple`, `says_finish` — what single statements say, and ends of transactions;
* `says_claimDue`, `says_quarantine`, `says_delete` — what the queue says.
-/

namespace Outbox.Database

/-- A statement, and what came back for it. -/
structure Exchange where
  statement : Statement
  answer : Except Error (List Row)

/-- Something came back that was no error. -/
def Exchange.Succeeded (x : Exchange) : Prop := ∃ rows, x.answer = .ok rows

/-- Statements by which a claim does what its tasks ask for: none of them opens or ends a transaction,
or claims anything. -/
def Statement.isWork : Statement → Bool
  | .insertDeadLetter .. | .deleteTask _ | .deleteTasks _ | .columnType _ | .statuses ..
  | .entities .. | .updatedBetween .. => true
  | _ => false

namespace Script

/-- Sends a statement of either kind. -/
def ask (statement : Statement) : Action Script (List Row) :=
  if statement.isSimple then simple statement >>= fun _ => pure [] else query statement

/-- What comes back for statements that are sent one after the other. -/
def exchanges : Script → List Statement → List Exchange
  | _, [] => []
  | s, statement :: rest =>
    ⟨statement, ((ask statement).exec s).1⟩ :: exchanges ((ask statement).exec s).2 rest

/-- The exchanges that led from one moment to another. -/
def since (before after : Script) : List Exchange :=
  before.exchanges (after.sent.drop before.sent.length)

theorem sent_query (statement : Statement) (s : Script) :
    ((query statement).exec s).2.sent = s.sent ++ [statement] := by
  rw [query, Action.exec_ofFun]
  dsimp only [record]
  split
  · rfl
  · rfl
  · rfl

theorem sent_simple (statement : Statement) (s : Script) :
    ((simple statement).exec s).2.sent = s.sent ++ [statement] := by
  rw [simple, Action.exec_ofFun]
  dsimp only [record]
  split
  · rfl
  · rfl

theorem exec_ask_of_simple {statement : Statement} (h : statement.isSimple = true) (s : Script) :
    (ask statement).exec s
      = (((simple statement).exec s).1.map fun _ => [], ((simple statement).exec s).2) := by
  rw [ask, if_pos h]
  exact Action.exec_bind_pure _ _ s

theorem exec_ask_of_query {statement : Statement} (h : statement.isSimple = false) (s : Script) :
    (ask statement).exec s = (query statement).exec s := by
  rw [ask, h]
  rfl

/-- A statement that is sent is kept. -/
theorem sent_ask (statement : Statement) (s : Script) :
    ((ask statement).exec s).2.sent = s.sent ++ [statement] := by
  cases h : statement.isSimple with
  | true => rw [exec_ask_of_simple h, sent_simple]
  | false => rw [exec_ask_of_query h, sent_query]

end Script

/-! ### Exchanges one after the other -/

/-- Exchanges that lead from one script to another. -/
inductive Talks : Script → List Exchange → Script → Prop
  | nil (s : Script) : Talks s [] s
  | cons {s s' : Script} {statement : Statement} {xs : List Exchange}
      (h : Talks ((Script.ask statement).exec s).2 xs s') :
      Talks s (⟨statement, ((Script.ask statement).exec s).1⟩ :: xs) s'

namespace Talks

variable {s s' s'' : Script} {xs ys : List Exchange}

theorem append (h : Talks s xs s') (h' : Talks s' ys s'') : Talks s (xs ++ ys) s'' := by
  induction h with
  | nil s => exact h'
  | cons _ ih => exact .cons (ih h')

theorem sent_eq (h : Talks s xs s') : s'.sent = s.sent ++ xs.map Exchange.statement := by
  induction h with
  | nil s => exact (List.append_nil _).symm
  | cons _ ih => rw [ih, Script.sent_ask, List.map_cons, List.append_assoc]; rfl

theorem exchanges_eq (h : Talks s xs s') : s.exchanges (xs.map Exchange.statement) = xs := by
  induction h with
  | nil s => rfl
  | cons _ ih => rw [List.map_cons, Script.exchanges, ih]

/-- **What was exchanged can be read off.**  It takes no more than the scripts before and after. -/
theorem since_eq (h : Talks s xs s') : s.since s' = xs := by
  rw [Script.since, h.sent_eq, List.drop_left, h.exchanges_eq]

end Talks

/-! ### What an action says -/

variable {σ τ α β : Type}

/-- What an action says to the database, which is a part of its state, fits its outcome. -/
def Says (view : σ → Script) (post : Except Error α → List Exchange → Prop) (a : Action σ α)
    (s : σ) : Prop :=
  ∃ xs, Talks (view s) xs (view (a.exec s).2) ∧ post (a.exec s).1 xs

namespace Says

variable {view : σ → Script} {post : Except Error α → List Exchange → Prop} {a : Action σ α} {s : σ}

theorem mono {post' : Except Error α → List Exchange → Prop} (h : Says view post a s)
    (himp : ∀ x xs, post x xs → post' x xs) : Says view post' a s := by
  obtain ⟨xs, htalks, hpost⟩ := h
  exact ⟨xs, htalks, himp _ _ hpost⟩

/-- An action that leaves the state as it is says nothing. -/
theorem silent (hstate : view (a.exec s).2 = view s) (h : post (a.exec s).1 []) :
    Says view post a s :=
  ⟨[], hstate.symm ▸ .nil _, h⟩

theorem value {x : α} (h : post (.ok x) []) (s : σ) : Says view post (pure x) s := silent rfl h

theorem thrown {e : Error} (h : post (.error e) []) (s : σ) : Says view post (throw e) s :=
  silent rfl h

theorem bind {f : α → Action σ β} {post' : Except Error β → List Exchange → Prop}
    (h : Says view post a s) (herror : ∀ e xs, post (.error e) xs → post' (.error e) xs)
    (hok : ∀ x s' xs, a.exec s = (.ok x, s') → post (.ok x) xs →
      Says view (fun y ys => post' y (xs ++ ys)) (f x) s') :
    Says view post' (a >>= f) s := by
  obtain ⟨xs, htalks, hpost⟩ := h
  rcases ha : a.exec s with ⟨e | x, s'⟩
  · rw [ha] at hpost htalks
    refine ⟨xs, ?_, ?_⟩
    · rwa [Action.exec_bind_error ha]
    · rw [Action.exec_bind_error ha]
      exact herror e xs hpost
  · rw [ha] at hpost htalks
    obtain ⟨ys, htalks', hpost'⟩ := hok x s' xs ha hpost
    refine ⟨xs ++ ys, ?_, ?_⟩
    · rw [Action.exec_bind_ok ha]
      exact htalks.append htalks'
    · rw [Action.exec_bind_ok ha]
      exact hpost'

/-- A value that is replaced changes nothing that was said. -/
theorem map {f : α → β} {post' : Except Error β → List Exchange → Prop} (h : Says view post a s)
    (himp : ∀ x xs, post x xs → post' (x.map f) xs) :
    Says view post' (a >>= fun x => pure (f x)) s := by
  obtain ⟨xs, htalks, hpost⟩ := h
  rw [Says, Action.exec_bind_pure]
  exact ⟨xs, htalks, himp _ _ hpost⟩

/-- The same inside a larger state. -/
theorem within {p : Part σ τ} {view' : τ → Script} {a : Action τ α} (s : σ)
    (hget : view s = view' (p.get s)) (hset : ∀ t, view (p.set s t) = view' t)
    (h : Says view' post a (p.get s)) : Says view post (a.within p) s := by
  obtain ⟨xs, htalks, hpost⟩ := h
  refine ⟨xs, ?_, hpost⟩
  rw [Action.exec_within, hget, hset]
  exact htalks

end Says

/-- One statement that has arguments or a result. -/
theorem says_query (statement : Statement) (h : statement.isSimple = false) (s : Script) :
    Says id (fun x xs => xs = [⟨statement, x⟩]) (Script.query statement) s := by
  have htalks := Talks.cons (Talks.nil ((Script.ask statement).exec s).2)
  rw [Script.exec_ask_of_query h] at htalks
  exact ⟨_, htalks, rfl⟩

theorem says_execute (statement : Statement) (h : statement.isSimple = false) (s : Script) :
    Says id (fun x xs => ∃ answer, xs = [⟨statement, answer⟩] ∧ x = answer.map fun _ => ())
      (Script.execute statement) s := by
  refine (says_query statement h s).bind ?_ ?_
  · rintro e _ rfl
    exact ⟨_, rfl, rfl⟩
  · rintro rows s' _ - rfl
    exact .value ⟨_, rfl, rfl⟩ s'

/-- One statement without arguments and without a result. -/
theorem says_simple (statement : Statement) (h : statement.isSimple = true) (s : Script) :
    Says id (fun x xs => xs = [⟨statement, x.map fun _ => []⟩]) (Script.simple statement) s := by
  have htalks := Talks.cons (Talks.nil ((Script.ask statement).exec s).2)
  rw [Script.exec_ask_of_simple h] at htalks
  exact ⟨_, htalks, rfl⟩

/-! ### Transactions -/

/-- A transaction that nobody holds any more is rolled back. -/
theorem talks_abandon (s : Script) : ∃ answer, Talks s [⟨.rollback, answer⟩] s.abandon := by
  obtain ⟨_, htalks, rfl⟩ := says_simple .rollback rfl s
  exact ⟨_, htalks⟩

/-- A transaction is ended by one statement, and rolled back if that is refused. -/
theorem says_finish (statement : Statement) (h : statement.isSimple = true) (s : Script) :
    Says id (fun x xs =>
        match x with
        | .ok _ => xs = [⟨statement, .ok []⟩]
        | .error e => ∃ answer, xs = [⟨statement, .error e⟩, ⟨.rollback, answer⟩])
      (Script.finish statement) s := by
  obtain ⟨_, htalks, rfl⟩ := says_simple statement h s
  rw [Script.finish, Says, Action.exec_ofFun]
  rcases hexec : (Script.simple statement).exec s with ⟨e | u, s'⟩
  · rw [hexec] at htalks
    obtain ⟨answer, habandon⟩ := talks_abandon s'
    exact ⟨_, htalks.append habandon, answer, rfl⟩
  · rw [hexec] at htalks
    exact ⟨_, htalks, rfl⟩

/-- A step that fails is followed by the end of its transaction. -/
theorem Says.orAbandon {post : Except Error α → List Exchange → Prop} {step : Action Script α}
    {s : Script} (h : Says id post step s) :
    Says id (fun x xs =>
        match x with
        | .ok a => post (.ok a) xs
        | .error e => ∃ ys answer, xs = ys ++ [⟨.rollback, answer⟩] ∧ post (.error e) ys)
      (Script.orAbandon step) s := by
  obtain ⟨xs, htalks, hpost⟩ := h
  rw [Script.orAbandon, Says, Action.exec_ofFun]
  rcases hexec : step.exec s with ⟨e | a, s'⟩
  · rw [hexec] at htalks hpost
    obtain ⟨answer, habandon⟩ := talks_abandon s'
    exact ⟨_, htalks.append habandon, xs, answer, rfl, hpost⟩
  · rw [hexec] at htalks hpost
    exact ⟨xs, htalks, hpost⟩

/-! ### What the queue says -/

namespace Queue

/-- How a claim is opened, or fails to be. -/
inductive Opening (limit : Int) : Except Error Claim → List Exchange → Prop
  | refused (e : Error) : Opening limit (.error e) [⟨.begin, .error e⟩]
  | unanswered (e : Error) (back : Except Error (List Row)) :
      Opening limit (.error e)
        [⟨.begin, .ok []⟩, ⟨.claimDue (max limit 0), .error e⟩, ⟨.rollback, back⟩]
  | unreadable {rows : List Row} {e : Error} (h : rows.mapM taskOfRow = .error e)
      (back : Except Error (List Row)) :
      Opening limit (.error e)
        [⟨.begin, .ok []⟩, ⟨.claimDue (max limit 0), .ok rows⟩, ⟨.rollback, back⟩]
  | opened {rows : List Row} {c : Claim} (h : rows.mapM taskOfRow = .ok c.tasks) :
      Opening limit (.ok c) [⟨.begin, .ok []⟩, ⟨.claimDue (max limit 0), .ok rows⟩]

theorem says_claimDue (limit : Int) (s : Script) :
    Says id (Opening limit) (claimDue limit) s := by
  rw [claimDue]
  refine (says_simple .begin rfl s).bind ?_ ?_
  · rintro e _ rfl
    exact .refused e
  rintro _ s₁ _ - rfl
  have hstep : Says id (fun (x : Except Error Claim) xs => ∃ answer,
      xs = [⟨.claimDue (max limit 0), answer⟩] ∧
        (answer >>= fun rows => rows.mapM taskOfRow) = x.map Claim.tasks)
      (do
        let rows ← Script.query (.claimDue (max limit 0))
        let tasks ← Action.ofView fun _ => rows.mapM taskOfRow
        pure ⟨tasks⟩) s₁ := by
    refine (says_query (.claimDue (max limit 0)) rfl s₁).bind ?_ ?_
    · rintro e _ rfl
      exact ⟨_, rfl, rfl⟩
    rintro rows s₂ _ - rfl
    cases hread : rows.mapM taskOfRow with
    | ok tasks => exact .silent rfl ⟨.ok rows, rfl, hread⟩
    | error e => exact .silent rfl ⟨.ok rows, rfl, hread⟩
  refine hstep.orAbandon.mono ?_
  intro x xs hx
  cases x with
  | ok c =>
      obtain ⟨answer, rfl, hread⟩ := hx
      cases answer with
      | ok rows => exact .opened hread
      | error e => cases hread
  | error e =>
      obtain ⟨_, back, rfl, answer, rfl, hread⟩ := hx
      cases answer with
      | ok rows => exact .unreadable hread back
      | error e' =>
          obtain rfl := Except.error.inj hread
          exact .unanswered e' back

/-- A task that is set aside is inserted elsewhere and deleted. -/
theorem says_quarantine (t : Task) (reason : String) (s : Script) :
    Says id (fun x xs =>
        match x with
        | .ok _ => ∃ inserted deleted, xs = [⟨.insertDeadLetter t reason, .ok inserted⟩,
            ⟨.deleteTask t.id, .ok deleted⟩]
        | .error _ => ∀ x ∈ xs, x.statement.isWork = true)
      (quarantine t reason) s := by
  rw [quarantine]
  refine (says_execute (.insertDeadLetter t reason) rfl s).bind ?_ ?_
  · rintro e _ ⟨answer, rfl, -⟩
    exact List.forall_mem_singleton.mpr rfl
  rintro _ s₁ _ - ⟨answer, rfl, hinserted⟩
  refine (says_execute (.deleteTask t.id) rfl s₁).mono ?_
  rintro x _ ⟨answer', rfl, rfl⟩
  cases answer with
  | error e => cases hinserted
  | ok inserted =>
      cases answer' with
      | ok deleted => exact ⟨inserted, deleted, rfl⟩
      | error e => exact List.forall_mem_cons.mpr ⟨rfl, List.forall_mem_singleton.mpr rfl⟩

/-- Tasks are deleted by one statement, which is not sent for none of them. -/
theorem says_delete (ids : List TaskId) (s : Script) :
    Says id (fun x xs =>
        if ids = [] then xs = []
        else ∃ answer, xs = [⟨.deleteTasks ids, answer⟩] ∧ x = answer.map fun _ => ())
      (delete ids) s := by
  rw [delete]
  cases ids with
  | nil => exact .value rfl s
  | cons i ids =>
      exact (says_execute (.deleteTasks (i :: ids)) rfl s).mono fun x xs hx => hx

end Queue

end Outbox.Database
