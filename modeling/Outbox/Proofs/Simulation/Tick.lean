import Outbox.Proofs.Reconciler.Healthy

/-!
# A tick over any index

Of the world of a simulation a tick sees the queue, the store and the index, and what it asks of the
index depends on the other two through the tasks that it claims and the entities that they name.
So a tick is said here by its `work`, which is an action on the index alone.

* `exec_indexing` — bringing identifiers up to date is one read of the store and one plan written;
* `exec_resolve` — the work on a claim;
* `exec_tick` — a tick claims, works, and commits or gives the claim back.
-/

namespace Outbox.Simulation

open Outbox.Memory Outbox.Reconciler

variable {ι α : Type}

/-! ### Calls to the index -/

/-- What an action on the index does to the world. -/
theorem exec_within_index (a : Action ι α) (w : World ι) :
    (a.within World.indexPart).exec w
      = ((a.exec w.index).1, { w with index := (a.exec w.index).2 }) := rfl

/-- A plan is written to an index that is a part of a world as it is written to the index. -/
theorem exec_write_within (b : SearchIndex ι) (p : Indexer.Plan) (w : World ι) :
    (Indexer.write (b.within World.indexPart) p).exec w
      = (((Indexer.write b p).exec w.index).1,
          { w with index := ((Indexer.write b p).exec w.index).2 }) := by
  have hupsert : ((b.within World.indexPart).upsert p.documents).exec w
      = (((b.upsert p.documents).exec w.index).1,
          { w with index := ((b.upsert p.documents).exec w.index).2 }) := rfl
  have htombstone : ∀ w : World ι, ((b.within World.indexPart).tombstone p.tombstoned).exec w
      = (((b.tombstone p.tombstoned).exec w.index).1,
          { w with index := ((b.tombstone p.tombstoned).exec w.index).2 }) := fun _ => rfl
  rw [Indexer.write, Indexer.write]
  cases p.documents.isEmpty with
  | true =>
      cases p.tombstoned.isEmpty with
      | true => rfl
      | false => exact htombstone w
  | false =>
      show (_ >>= _ : Action (World ι) Unit).exec w = _
      rw [Action.exec_bind, hupsert]
      show _ = (((_ >>= _ : Action ι Unit).exec w.index).1,
        { w with index := ((_ >>= _ : Action ι Unit).exec w.index).2 })
      rw [Action.exec_bind]
      rcases (b.upsert p.documents).exec w.index with ⟨e | u, x⟩
      · rfl
      · cases p.tombstoned.isEmpty with
        | true => rfl
        | false => exact htombstone { w with index := x }

/-! ### Bringing identifiers up to date -/

/-- What is written for some identifiers, by what the store holds. -/
def Setup.planned (enrich : Transform) (st : Store) (ids : List EntityId) : Indexer.Plan :=
  Indexer.plan enrich (distinct ids) (st.fetch (distinct ids))

variable (s : Setup ι) (w : World ι)

/-- **Indexing.**  It fails with the store before anything is written. -/
theorem exec_indexing (enrich : Transform) (ids : List EntityId) :
    (Indexer.run s.reconciler.store s.reconciler.index enrich ids).exec w
      = if ids = [] then (.ok ⟨[], []⟩, w)
        else if w.store.available = false then (.error (.database .poolTimedOut), w)
        else
          let p := Setup.planned enrich w.store ids
          let written := (Indexer.write s.index p).exec w.index
          (written.1.map fun _ => ⟨p.documents.map Document.id, p.tombstoned⟩,
            { w with index := written.2 }) := by
  cases ids with
  | nil => rfl
  | cons i ids =>
      rw [if_neg (List.cons_ne_nil i ids)]
      show (_ >>= _ : Action (World ι) Indexer.Outcome).exec w = _
      have hentities : (s.reconciler.store.entities (distinct (i :: ids))).exec w
          = (if w.store.available then .ok (w.store.fetch (distinct (i :: ids)))
              else .error (.database .poolTimedOut), w) := rfl
      cases hstore : w.store.available with
      | false =>
          rw [hstore] at hentities
          exact Action.exec_bind_error hentities _
      | true =>
          rw [hstore] at hentities
          rw [Action.exec_bind_ok hentities]
          refine (Action.exec_bind_pure _ _ _).trans ?_
          rw [show s.reconciler.index = s.index.within World.indexPart from rfl, exec_write_within]
          rfl

/-! ### The work on a claim -/

/-- What is written for the tasks of a claim by what the index shows, given the store. -/
def Setup.update (s : Setup ι) (tasks : List Task) (st : Store)
    (held : Table EntityId IndexStatus) : Action ι Report :=
  let refs := references s.registry tasks
  let verdict := classify (st.statuses (referenced refs)) held
  let todo := stale refs verdict
  if todo = [] then pure (report s.registry tasks verdict)
  else do
    Indexer.write s.index (Setup.planned s.enrich st todo)
    pure (report s.registry tasks verdict)

/-- What the tasks of a claim ask of the index, given the store. -/
def Setup.work (s : Setup ι) (tasks : List Task) (st : Store) : Action ι Report := do
  let held ← s.index.statuses (referenced (references s.registry tasks))
  s.update tasks st held

theorem exec_asides (c : Claim) (bad : List (Task × String)) :
    (setAside s.reconciler.queue c bad).exec w = (.ok (c.setAside bad), w) := by
  induction bad generalizing c with
  | nil => rfl
  | cons p bad ih =>
      rw [setAside, Action.exec_bind]
      exact ih (c.quarantine p.1 p.2)

/-- The part of the work that comes after both reads. -/
theorem exec_update (hstore : w.store.available = true) (c : Claim) (tasks : List Task)
    (held : Table EntityId IndexStatus) :
    (let refs := references s.registry tasks
      let verdict := classify (w.store.statuses (referenced refs)) held
      let todo := stale refs verdict
      if !todo.isEmpty then do
        let _ ← Indexer.run s.reconciler.store s.reconciler.index s.enrich todo
        pure (c, report s.registry tasks verdict)
      else pure (c, report s.registry tasks verdict) : Action (World ι) (Claim × Report)).exec w
      = (((s.update tasks w.store held).exec w.index).1.map fun report => (c, report),
          { w with index := ((s.update tasks w.store held).exec w.index).2 }) := by
  rw [Setup.update]
  dsimp only
  split
  · rename_i hsome
    have hne : stale (references s.registry tasks) (classify
        (w.store.statuses (referenced (references s.registry tasks))) held) ≠ [] := by
      simpa using hsome
    rw [if_neg hne, Action.exec_bind, exec_indexing, if_neg hne, if_neg (by simp [hstore]),
      Action.exec_bind]
    dsimp only
    rcases (Indexer.write s.index (Setup.planned s.enrich w.store (stale (references s.registry tasks)
      (classify (w.store.statuses (referenced (references s.registry tasks))) held)))).exec w.index
        with ⟨e | u, x⟩
    · rfl
    · rfl
  · rename_i hnone
    have hnil : stale (references s.registry tasks) (classify
        (w.store.statuses (referenced (references s.registry tasks))) held) = [] := by
      simpa using hnone
    rw [if_pos hnil]
    rfl

/-- **The work on a claim.**  It fails with the store before the index is asked for anything. -/
theorem exec_resolve_work (c : Claim) (tasks : List Task) :
    (s.reconciler.resolve c tasks).exec w
      = if w.store.available = false then (.error (.database .poolTimedOut), w)
        else
          let done := (s.work tasks w.store).exec w.index
          (done.1.map fun report => (c.setAside (malformed s.registry tasks), report),
            { w with index := done.2 }) := by
  have hprimary : (s.reconciler.store.statuses (referenced (references s.registry tasks))).exec w
      = (if w.store.available then .ok (w.store.statuses (referenced (references s.registry tasks)))
          else .error (.database .poolTimedOut), w) := rfl
  have hheld := exec_within_index (s.index.statuses (referenced (references s.registry tasks))) w
  rw [resolve, Action.exec_bind_ok (exec_asides s w c _)]
  by_cases hstore : w.store.available = false
  · rw [if_pos hstore]
    rw [hstore] at hprimary
    exact Action.exec_bind_error hprimary _
  · rw [if_neg hstore]
    rw [Bool.not_eq_false] at hstore
    rw [if_pos hstore] at hprimary
    refine (Action.exec_bind_ok hprimary _).trans ?_
    rcases hindex : (s.index.statuses (referenced (references s.registry tasks))).exec w.index
      with ⟨e | held, x⟩
    · have hwork : (s.work tasks w.store).exec w.index = (.error e, x) :=
        Action.exec_bind_error hindex _
      rw [hindex] at hheld
      rw [hwork]
      exact Action.exec_bind_error hheld _
    · have hwork : (s.work tasks w.store).exec w.index = (s.update tasks w.store held).exec x :=
        Action.exec_bind_ok hindex _
      rw [hindex] at hheld
      rw [hwork]
      refine (Action.exec_bind_ok hheld _).trans ?_
      exact exec_update s { w with index := x } hstore _ tasks held

/-! ### A whole tick -/

/-- **A tick.**  Without tasks, and when the work fails, the queue is as before. -/
theorem exec_tick_work : s.reconciler.tick.exec w
    = if (w.queue.claimDue s.limit).1.tasks = [] then (.ok .idle, w)
      else if w.store.available = false then (.error (.database .poolTimedOut), w)
      else
        match (s.work (w.queue.claimDue s.limit).1.tasks w.store).exec w.index with
        | (.ok report, x) =>
          (.ok report, { w with queue := settled s.registry s.limit w.queue, index := x })
        | (.error e, x) => (.error e, { w with index := x }) := by
  have hclaim : (s.reconciler.queue.claimDue s.limit).exec w
      = (.ok (w.queue.claimDue s.limit).1, { w with queue := (w.queue.claimDue s.limit).2 }) := rfl
  have hback := Queue.release_claimDue w.queue s.limit
  refine (Action.exec_bind_ok hclaim _).trans ?_
  by_cases hnone : (w.queue.claimDue s.limit).1.tasks = []
  · rw [if_pos hnone]
    show (if (w.queue.claimDue s.limit).1.tasks.isEmpty then _ else _ : Action (World ι) _).exec _ = _
    rw [List.isEmpty_iff.mpr hnone]
    show (Except.ok Report.idle, { w with queue := (w.queue.claimDue s.limit).2.release _ }) = _
    rw [hback]
  · rw [if_neg hnone]
    show (if (w.queue.claimDue s.limit).1.tasks.isEmpty then _ else _ : Action (World ι) _).exec _ = _
    rw [List.isEmpty_eq_false_iff.mpr hnone]
    show ((_ : Action (World ι) _).attempt >>= _ : Action (World ι) _).exec _ = _
    rw [Action.exec_bind, Action.exec_attempt]
    have hresolve := exec_resolve_work s { w with queue := (w.queue.claimDue s.limit).2 }
      (w.queue.claimDue s.limit).1 (w.queue.claimDue s.limit).1.tasks
    rw [show s.reconciler.queue.tasks (w.queue.claimDue s.limit).1
      = (w.queue.claimDue s.limit).1.tasks from rfl, hresolve]
    by_cases hstore : w.store.available = false
    · rw [if_pos hstore, if_pos hstore]
      show (Except.error _, { w with queue := (w.queue.claimDue s.limit).2.release _ }) = _
      rw [hback]
    · rw [if_neg hstore, if_neg hstore]
      dsimp only
      rcases (s.work (w.queue.claimDue s.limit).1.tasks w.store).exec w.index with ⟨e | report, x⟩
      · show (Except.error _, { w with
          queue := (w.queue.claimDue s.limit).2.release _, index := x }) = _
        rw [hback]
      · rfl

end Outbox.Simulation
