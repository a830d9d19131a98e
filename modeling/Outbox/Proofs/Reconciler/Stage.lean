import Outbox.Proofs.Action
import Outbox.Reconciler

/-!
# A tick step by step

Other producers and consumers work between any two calls that a tick makes to its services.  `next`
takes a tick apart at these places: each step makes one call, and what the tick knows by then stands
in its `Stage`.

* `drive_resting` — with nothing happening in between, the steps of a tick come to the tick;
* `Leads` — the same from any stage on, by which the proof goes backwards through the stages.
-/

namespace Outbox.Reconciler

open Outbox.Indexer

variable {σ κ : Type}

/-- Where a consumer stands between two calls.  A tick keeps its claim as it was opened, and as it
stands with what was asked for under it. -/
inductive Stage (κ : Type)
  /-- No tick is under way; what the last one came to, if there was one. -/
  | resting (last : Option (Except Error Report))
  /-- Tasks are claimed. -/
  | claimed (claim : κ)
  /-- Versions in the store are read. -/
  | sawStore (claim asked : κ) (primary : Table EntityId PrimaryStatus)
  /-- Versions in the index are read, and there are entities to index. -/
  | judged (claim asked : κ) (report : Report) (todo : List EntityId)
  /-- These entities are read. -/
  | loaded (claim asked : κ) (report : Report) (plan : Plan)
  /-- Their documents are written. -/
  | upserted (claim asked : κ) (report : Report) (plan : Plan)
  /-- The index is written. -/
  | written (claim asked : κ) (report : Report)
  /-- A call failed. -/
  | failed (claim : κ) (e : Error)

/-- Goes on to the next stage, or to the failure of the tick. -/
def orFail (claim : κ) (step : Action σ (Stage κ)) : Action σ (Stage κ) := do
  match ← step.attempt with
  | .ok stage => pure stage
  | .error e => pure (.failed claim e)

/-- Deletes the tasks that could be read, and commits. -/
def settle (r : Reconciler σ κ) (tasks : List Task) (asked : κ) : Action σ Unit := do
  let ready ← orAbandon r.queue asked
    (r.queue.delete asked ((references r.registry tasks).map Prod.fst))
  r.queue.commit ready

/-- One step of a consumer.  A consumer at rest begins another tick. -/
def next (r : Reconciler σ κ) : Stage κ → Action σ (Stage κ)
  | .resting _ => do
    match ← (r.queue.claimDue r.limit).attempt with
    | .ok claim => pure (.claimed claim)
    | .error e => pure (.resting (some (.error e)))
  | .claimed claim =>
    let tasks := r.queue.tasks claim
    if tasks.isEmpty then do
      Action.change fun s => ((), r.queue.abandon claim s)
      pure (.resting (some (.ok .idle)))
    else orFail claim do
      let asked ← setAside r.queue claim (malformed r.registry tasks)
      let primary ← r.store.statuses (referenced (references r.registry tasks))
      pure (.sawStore claim asked primary)
  | .sawStore claim asked primary =>
    let tasks := r.queue.tasks claim
    let refs := references r.registry tasks
    orFail claim do
      let index ← r.index.statuses (referenced refs)
      let verdict := classify primary index
      let report := report r.registry tasks verdict
      let todo := stale refs verdict
      pure (if todo.isEmpty then .written claim asked report else .judged claim asked report todo)
  | .judged claim asked report todo => orFail claim do
    let ids := distinct todo
    let entities ← r.store.entities ids
    pure (.loaded claim asked report (plan r.enrich ids entities))
  | .loaded claim asked report p => orFail claim do
    if !p.documents.isEmpty then r.index.upsert p.documents
    pure (.upserted claim asked report p)
  | .upserted claim asked report p => orFail claim do
    if !p.tombstoned.isEmpty then r.index.tombstone p.tombstoned
    pure (.written claim asked report)
  | .written claim asked report => do
    match ← (settle r (r.queue.tasks claim) asked).attempt with
    | .ok _ => pure (.resting (some (.ok report)))
    | .error e => pure (.resting (some (.error e)))
  | .failed claim e => do
    let _ ← (r.queue.rollback claim).attempt
    pure (.resting (some (.error e)))

/-- Carries a tick on until it is over, with that many steps at most. -/
def drive (r : Reconciler σ κ) : Nat → Stage κ → Action σ (Stage κ)
  | 0, stage => pure stage
  | _ + 1, .resting last => pure (.resting last)
  | n + 1, stage => next r stage >>= drive r n

/-! ### What is left of a tick -/

/-- The end of a tick, from the work on its claim on. -/
def finish (r : Reconciler σ κ) (claim : κ) (work : Action σ (κ × Report)) : Action σ Report := do
  match ← work.attempt with
  | .ok (asked, report) => do
    settle r (r.queue.tasks claim) asked
    pure report
  | .error e => do
    let _ ← (r.queue.rollback claim).attempt
    throw e

variable {r : Reconciler σ κ} {claim asked : κ} {s s' : σ}

theorem exec_finish_ok {work : Action σ (κ × Report)} {report : Report}
    (h : work.exec s = (.ok (asked, report), s')) :
    (finish r claim work).exec s
      = (((settle r (r.queue.tasks claim) asked).exec s').1.map fun _ => report,
        ((settle r (r.queue.tasks claim) asked).exec s').2) := by
  have hwork : work.attempt.exec s = (.ok (.ok (asked, report)), s') := by
    rw [Action.exec_attempt, h]
  refine (Action.exec_bind_ok hwork _).trans ?_
  show (settle r (r.queue.tasks claim) asked >>= fun _ => pure report).exec s' = _
  rw [Action.exec_bind]
  rcases (settle r (r.queue.tasks claim) asked).exec s' with ⟨e | u, s''⟩
  · rfl
  · rfl

theorem exec_finish_error {work : Action σ (κ × Report)} {e : Error}
    (h : work.exec s = (.error e, s')) :
    (finish r claim work).exec s = (.error e, ((r.queue.rollback claim).exec s').2) := by
  have hwork : work.attempt.exec s = (.ok (.error e), s') := by
    rw [Action.exec_attempt, h]
  exact Action.exec_bind_ok hwork _

/-- The work that is left counts, not what was done before. -/
theorem exec_finish_congr {work work' : Action σ (κ × Report)} (h : work.exec s = work'.exec s') :
    (finish r claim work).exec s = (finish r claim work').exec s' := by
  rcases hwork : work'.exec s' with ⟨e | ⟨asked, report⟩, s''⟩
  · rw [exec_finish_error (h.trans hwork), exec_finish_error hwork]
  · rw [exec_finish_ok (h.trans hwork), exec_finish_ok hwork]

/-! ### The steps of a tick -/

/-- From a stage on, the steps of a tick come to the end of a tick with the given work left. -/
def Leads (r : Reconciler σ κ) (n : Nat) (stage : Stage κ) (claim : κ)
    (work : Action σ (κ × Report)) : Prop :=
  ∀ s, (drive r n stage).exec s
    = (.ok (.resting (some ((finish r claim work).exec s).1)), ((finish r claim work).exec s).2)

/-- A tick that is over stays so. -/
theorem exec_drive_resting (r : Reconciler σ κ) (n : Nat) (last : Option (Except Error Report))
    (s : σ) :
    (drive r n (.resting last)).exec s = (.ok (.resting last), s) := by
  cases n with
  | zero => rfl
  | succ n => rfl

theorem Leads.written (r : Reconciler σ κ) (n : Nat) (claim asked : κ) (report : Report) :
    Leads r (n + 1) (.written claim asked report) claim (pure (asked, report)) := by
  intro s
  rw [exec_finish_ok (Action.exec_pure _ s)]
  have hnext : (next r (.written claim asked report)).exec s
      = (.ok (.resting (some (((settle r (r.queue.tasks claim) asked).exec s).1.map
          fun _ => report))),
        ((settle r (r.queue.tasks claim) asked).exec s).2) := by
    refine (Action.exec_bind_ok (Action.exec_attempt _ s) _).trans ?_
    rcases (settle r (r.queue.tasks claim) asked).exec s with ⟨e | u, s'⟩
    · rfl
    · rfl
  exact (Action.exec_bind_ok hnext _).trans (exec_drive_resting r n _ _)

theorem exec_drive_failed (r : Reconciler σ κ) (n : Nat) (claim : κ) (e : Error) (s : σ) :
    (drive r (n + 1) (.failed claim e)).exec s
      = (.ok (.resting (some (.error e))), ((r.queue.rollback claim).exec s).2) := by
  have hnext : (next r (.failed claim e)).exec s
      = (.ok (.resting (some (.error e))), ((r.queue.rollback claim).exec s).2) :=
    Action.exec_bind_ok (Action.exec_attempt _ s) _
  exact (Action.exec_bind_ok hnext _).trans (exec_drive_resting r n _ _)

/-- **One call.**  A stage that makes a call and goes on from its answer does the work that begins
with this call; where the call fails, so does the work. -/
theorem Leads.call {α : Type} {n : Nat} {stage : Stage κ} {call : Action σ α} (goOn : α → Stage κ)
    {work : α → Action σ (κ × Report)}
    (hstage : drive r (n + 2) stage
      = orFail claim (call >>= fun a => pure (goOn a)) >>= drive r (n + 1))
    (hnext : ∀ a, Leads r (n + 1) (goOn a) claim (work a)) :
    Leads r (n + 2) stage claim (call >>= work) := by
  intro s
  rw [hstage]
  rcases hcall : call.exec s with ⟨e | a, s'⟩
  · have hstep : (orFail claim (call >>= fun a => pure (goOn a))).exec s
        = (.ok (.failed claim e), s') := by
      refine (Action.exec_bind_ok (Action.exec_attempt _ s) _).trans ?_
      rw [Action.exec_bind_error hcall]
      rfl
    rw [Action.exec_bind_ok hstep, exec_drive_failed,
      exec_finish_error (Action.exec_bind_error hcall work)]
  · have hstep : (orFail claim (call >>= fun a => pure (goOn a))).exec s = (.ok (goOn a), s') := by
      refine (Action.exec_bind_ok (Action.exec_attempt _ s) _).trans ?_
      rw [Action.exec_bind_ok hcall]
      rfl
    rw [Action.exec_bind_ok hstep, hnext a s', exec_finish_congr (Action.exec_bind_ok hcall work)]

theorem Leads.upserted (r : Reconciler σ κ) (n : Nat) (claim asked : κ) (report : Report)
    (p : Plan) :
    Leads r (n + 2) (.upserted claim asked report p) claim
      ((if !p.tombstoned.isEmpty then r.index.tombstone p.tombstoned else pure ()) >>=
        fun _ => pure (asked, report)) := by
  refine Leads.call (fun _ => .written claim asked report) ?_
    fun _ => Leads.written r n claim asked report
  simp only [drive, next]
  congr 2
  split
  · rfl
  · rfl

theorem Leads.loaded (r : Reconciler σ κ) (n : Nat) (claim asked : κ) (report : Report) (p : Plan) :
    Leads r (n + 3) (.loaded claim asked report p) claim
      (write r.index p >>= fun _ => pure (asked, report)) := by
  have hwork : (write r.index p >>= fun _ => pure (asked, report) : Action σ (κ × Report))
      = (if !p.documents.isEmpty then r.index.upsert p.documents else pure ()) >>= fun _ =>
        (if !p.tombstoned.isEmpty then r.index.tombstone p.tombstoned else pure ()) >>=
          fun _ => pure (asked, report) := by
    rw [write]
    split
    · rw [bind_assoc]
    · rw [pure_bind]
  rw [hwork]
  refine Leads.call (fun _ => .upserted claim asked report p) ?_
    fun _ => Leads.upserted r n claim asked report p
  simp only [drive, next]
  congr 2
  split
  · rfl
  · rfl

theorem Leads.judged (r : Reconciler σ κ) (n : Nat) (claim asked : κ) (report : Report)
    {todo : List EntityId} (htodo : todo ≠ []) :
    Leads r (n + 4) (.judged claim asked report todo) claim
      (run r.store r.index r.enrich todo >>= fun _ => pure (asked, report)) := by
  have hne : (distinct todo).isEmpty = false := by
    cases todo with
    | nil => exact absurd rfl htodo
    | cons i todo => rfl
  have hwork : (run r.store r.index r.enrich todo >>= fun _ => pure (asked, report) :
      Action σ (κ × Report))
      = r.store.entities (distinct todo) >>= fun entities =>
        write r.index (plan r.enrich (distinct todo) entities) >>=
          fun _ => pure (asked, report) := by
    rw [run]
    simp only [hne, Bool.false_eq_true, if_false, bind_assoc, pure_bind]
  rw [hwork]
  exact Leads.call
    (fun entities => .loaded claim asked report (plan r.enrich (distinct todo) entities)) rfl
    fun entities => Leads.loaded r n claim asked report _

/-- What is left of the work on a claim once versions in the store are read. -/
def resolveFrom (r : Reconciler σ κ) (asked : κ) (tasks : List Task)
    (primary : Table EntityId PrimaryStatus) : Action σ (κ × Report) := do
  let refs := references r.registry tasks
  let index ← r.index.statuses (referenced refs)
  let verdict := classify primary index
  let todo := stale refs verdict
  if !todo.isEmpty then
    let _ ← run r.store r.index r.enrich todo
  pure (asked, report r.registry tasks verdict)

theorem Leads.sawStore (r : Reconciler σ κ) (n : Nat) (claim asked : κ)
    (primary : Table EntityId PrimaryStatus) :
    Leads r (n + 5) (.sawStore claim asked primary) claim
      (resolveFrom r asked (r.queue.tasks claim) primary) := by
  refine Leads.call (fun index => _) rfl fun index => ?_
  dsimp only
  split
  · rename_i h
    rw [h]
    exact Leads.written r (n + 3) claim asked _
  · rename_i h
    rw [Bool.not_eq_true] at h
    rw [h]
    exact Leads.judged r n claim asked _ (List.isEmpty_eq_false_iff.mp h)

/-- The first call of a tick after its claim, with what is set aside before it. -/
def readStore (r : Reconciler σ κ) (claim : κ) : Action σ (κ × Table EntityId PrimaryStatus) := do
  let tasks := r.queue.tasks claim
  let asked ← setAside r.queue claim (malformed r.registry tasks)
  let primary ← r.store.statuses (referenced (references r.registry tasks))
  pure (asked, primary)

theorem resolve_eq (r : Reconciler σ κ) (claim : κ) :
    r.resolve claim (r.queue.tasks claim)
      = readStore r claim >>= fun p => resolveFrom r p.1 (r.queue.tasks claim) p.2 := by
  simp only [resolve, readStore, resolveFrom, bind_assoc, pure_bind]

theorem next_claimed {r : Reconciler σ κ} {claim : κ} (h : (r.queue.tasks claim).isEmpty = false) :
    next r (.claimed claim)
      = orFail claim (readStore r claim >>= fun p => pure (.sawStore claim p.1 p.2)) := by
  simp only [next, readStore, h, Bool.false_eq_true, if_false, bind_assoc, pure_bind]

theorem Leads.claimed (r : Reconciler σ κ) (n : Nat) (claim : κ)
    (h : (r.queue.tasks claim).isEmpty = false) :
    Leads r (n + 6) (.claimed claim) claim (r.resolve claim (r.queue.tasks claim)) := by
  have hnext : ∀ p : κ × Table EntityId PrimaryStatus,
      Leads r (n + 5) (.sawStore claim p.1 p.2) claim
      (resolveFrom r p.1 (r.queue.tasks claim) p.2) := fun p => Leads.sawStore r n claim p.1 p.2
  have hstage : drive r (n + 6) (.claimed claim)
      = orFail claim (readStore r claim >>= fun p => pure (.sawStore claim p.1 p.2)) >>=
        drive r (n + 5) := by
    rw [drive, next_claimed h]
    intro last heq
    cases heq
  rw [resolve_eq]
  exact Leads.call _ hstage hnext

/-- A tick is its claim, and the end that depends on whether there is anything in it. -/
theorem exec_tick_of_claimed {r : Reconciler σ κ} {claim : κ}
    (h : (r.queue.claimDue r.limit).exec s = (.ok claim, s')) :
    r.tick.exec s =
      if (r.queue.tasks claim).isEmpty then (.ok .idle, r.queue.abandon claim s')
      else (finish r claim (r.resolve claim (r.queue.tasks claim))).exec s' := by
  refine (Action.exec_bind_ok h _).trans ?_
  dsimp only
  split
  · rfl
  · refine congrArg (fun a => Action.exec a s') ?_
    rw [finish]
    refine bind_congr fun res => ?_
    cases res with
    | ok p =>
        simp only [settle, bind_assoc]
    | error e => rfl

/-- **A tick, step by step.**  When nothing happens in between, the steps that a consumer at rest
takes come to a tick: the same outcome, and the same state of the services. -/
theorem drive_resting (r : Reconciler σ κ) (last : Option (Except Error Report)) (s : σ) :
    (next r (.resting last) >>= drive r 6).exec s
      = (.ok (.resting (some (r.tick.exec s).1)), (r.tick.exec s).2) := by
  rcases hclaim : (r.queue.claimDue r.limit).exec s with ⟨e | claim, s'⟩
  · have hnext : (next r (.resting last)).exec s = (.ok (.resting (some (.error e))), s') := by
      refine (Action.exec_bind_ok (Action.exec_attempt _ s) _).trans ?_
      rw [hclaim]
      rfl
    have htick : r.tick.exec s = (.error e, s') := Action.exec_bind_error hclaim _
    rw [Action.exec_bind_ok hnext, exec_drive_resting, htick]
  · have hnext : (next r (.resting last)).exec s = (.ok (.claimed claim), s') := by
      refine (Action.exec_bind_ok (Action.exec_attempt _ s) _).trans ?_
      rw [hclaim]
      rfl
    rw [Action.exec_bind_ok hnext, exec_tick_of_claimed hclaim]
    cases hempty : (r.queue.tasks claim).isEmpty with
    | true =>
        have hrest : (next r (.claimed claim)).exec s'
            = (.ok (.resting (some (.ok .idle))), r.queue.abandon claim s') := by
          rw [next, hempty]
          rfl
        exact (Action.exec_bind_ok hrest _).trans (exec_drive_resting r 5 _ _)
    | false => exact Leads.claimed r 0 claim hempty s'

end Outbox.Reconciler
