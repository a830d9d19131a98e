import Outbox.Proofs.Fleet.Basic

/-!
# The steps of a consumer in memory

What one step of a consumer does to the world, and to which stage it leads, for each stage it can be
taken from.  A step that makes a call goes on where the call succeeds, and to the failure of the
tick where it does not; only the last step and the writes change anything.
-/

namespace Outbox.Fleet

open Outbox.Indexer Outbox.Memory Outbox.Reconciler Outbox.Simulation

variable {κ : Type} (c : Settings κ) (k : κ) (w : World Index)

/-- Where a call leads: on, or to the failure of the tick. -/
def onward (claim : Claim) : Except Error (Stage Claim) → Stage Claim
  | .ok stage => stage
  | .error e => .failed claim e

theorem exec_orFail (claim : Claim) (step : Action (World Index) (Stage Claim)) :
    (orFail claim step).exec w = (.ok (onward claim (step.exec w).1), (step.exec w).2) := by
  refine (Action.exec_bind_ok (Action.exec_attempt step w) _).trans ?_
  rcases step.exec w with ⟨e | stage, w'⟩
  · rfl
  · rfl

/-- A step that makes one call. -/
theorem exec_call {α : Type} (claim : Claim) (call : Action (World Index) α)
    (goOn : α → Stage Claim) :
    (orFail claim (call >>= fun a => pure (goOn a))).exec w
      = (.ok (onward claim ((call.exec w).1.map goOn)), (call.exec w).2) := by
  rw [exec_orFail, Action.exec_bind_pure]

theorem exec_resting (last : Option (Except Error Report)) :
    (next (c.reconciler k) (.resting last)).exec w
      = (.ok (.claimed (claim (c.limit k) w)), claiming (c.limit k) w) := rfl

theorem exec_claimed_nil {claim : Claim} (h : claim.tasks = []) :
    (next (c.reconciler k) (.claimed claim)).exec w
      = (.ok (.resting (some (.ok .idle))), { w with queue := w.queue.release claim }) := by
  have hempty : ((c.reconciler k).queue.tasks claim).isEmpty = true := List.isEmpty_iff.mpr h
  rw [next, hempty]
  rfl

/-- The tasks that cannot be read are set aside, and the versions of the named entities are read. -/
theorem exec_claimed {claim : Claim} (h : claim.tasks ≠ []) :
    (next (c.reconciler k) (.claimed claim)).exec w
      = (.ok (onward claim
          ((w.read (w.store.statuses (referenced (references c.registry claim.tasks)))).map
            (.sawStore claim (claim.setAside (malformed c.registry claim.tasks))))), w) := by
  have hempty : ((c.reconciler k).queue.tasks claim).isEmpty = false :=
    List.isEmpty_eq_false_iff.mpr h
  have haside := exec_setAside (c.enrich k) c.registry (c.limit k) w claim
    (malformed c.registry claim.tasks)
  have hread : (readStore (c.reconciler k) claim).exec w
      = ((w.read (w.store.statuses (referenced (references c.registry claim.tasks)))).map
          fun primary => (claim.setAside (malformed c.registry claim.tasks), primary), w) :=
    (Action.exec_bind_ok haside _).trans (Action.exec_bind_pure _ _ w)
  rw [next_claimed hempty, exec_call, hread]
  cases w.read (w.store.statuses (referenced (references c.registry claim.tasks))) with
  | ok primary => rfl
  | error e => rfl

/-- The stage in which the named entities are judged. -/
def judge (registry : Registry) (claim asked : Claim) (primary : Table EntityId PrimaryStatus)
    (index : Table EntityId IndexStatus) : Stage Claim :=
  let verdict := classify primary index
  let todo := stale (references registry claim.tasks) verdict
  if todo.isEmpty then .written claim asked (report registry claim.tasks verdict)
  else .judged claim asked (report registry claim.tasks verdict) todo

/-- The versions in the index are read. -/
theorem exec_sawStore (claim asked : Claim) (primary : Table EntityId PrimaryStatus) :
    (next (c.reconciler k) (.sawStore claim asked primary)).exec w
      = (.ok (if w.index.available then
          judge c.registry claim asked primary
            (w.index.statuses (referenced (references c.registry claim.tasks)))
        else .failed claim Index.down), w) := by
  have hnext : next (c.reconciler k) (.sawStore claim asked primary)
      = orFail claim
          ((c.reconciler k).index.statuses (referenced (references c.registry claim.tasks))
            >>= fun index => pure (judge c.registry claim asked primary index)) := rfl
  have hcall :
      ((c.reconciler k).index.statuses (referenced (references c.registry claim.tasks))).exec w
        = _ := exec_indexStatuses (c.enrich k) c.registry (c.limit k) w _
  rw [hnext, exec_call, hcall]
  split
  · rfl
  · rfl

/-- The entities to index are read. -/
theorem exec_judged (claim asked : Claim) (report : Report) (todo : List EntityId) :
    (next (c.reconciler k) (.judged claim asked report todo)).exec w
      = (.ok (onward claim ((w.read (w.store.fetch (distinct todo))).map fun entities =>
          .loaded claim asked report (plan (c.enrich k) (distinct todo) entities))), w) :=
  exec_call w claim _ _

/-- What a call to write the index answers, and the index after it.  There is no call where nothing
is to be written. -/
def writing (x : Index) (ids : List EntityId) (after : Index) : Except Error Unit × Index :=
  if ids = [] then (.ok (), x)
  else if x.available then (x.verdict ids, after)
  else (.error Index.down, x)

theorem writing_of_ne_nil {ids : List EntityId} (h : ids ≠ []) (after : Index) :
    (if w.index.available then (w.index.verdict ids, { w with index := after })
      else (.error Index.down, w))
      = ((writing w.index ids after).1, { w with index := (writing w.index ids after).2 }) := by
  rw [writing, if_neg h]
  split
  · rfl
  · rfl

theorem exec_loaded (claim asked : Claim) (report : Report) (p : Plan) :
    (next (c.reconciler k) (.loaded claim asked report p)).exec w
      = let r := writing w.index (p.documents.map Document.id) (w.index.afterUpsert p.documents)
        (.ok (onward claim (r.1.map fun _ => .upserted claim asked report p)),
          { w with index := r.2 }) := by
  have hcall : (if !p.documents.isEmpty then (c.reconciler k).index.upsert p.documents
      else pure ()).exec w
      = let r := writing w.index (p.documents.map Document.id) (w.index.afterUpsert p.documents)
        (r.1, { w with index := r.2 }) := by
    cases hdocs : p.documents with
    | nil => rfl
    | cons d docs =>
        exact (exec_indexUpsert (c.enrich k) c.registry (c.limit k) w (d :: docs)).trans
          (writing_of_ne_nil w (List.cons_ne_nil d.id (docs.map Document.id)) _)
  have hnext : next (c.reconciler k) (.loaded claim asked report p)
      = orFail claim ((if !p.documents.isEmpty then (c.reconciler k).index.upsert p.documents
        else pure ()) >>= fun _ => pure (.upserted claim asked report p)) := by
    rw [next]
    congr 1
    split
    · rfl
    · rfl
  rw [hnext, exec_call, hcall]

theorem exec_upserted (claim asked : Claim) (report : Report) (p : Plan) :
    (next (c.reconciler k) (.upserted claim asked report p)).exec w
      = let r := writing w.index p.tombstoned (w.index.afterTombstone p.tombstoned)
        (.ok (onward claim (r.1.map fun _ => .written claim asked report)),
          { w with index := r.2 }) := by
  have hcall : (if !p.tombstoned.isEmpty then (c.reconciler k).index.tombstone p.tombstoned
      else pure ()).exec w
      = let r := writing w.index p.tombstoned (w.index.afterTombstone p.tombstoned)
        (r.1, { w with index := r.2 }) := by
    cases htombs : p.tombstoned with
    | nil => rfl
    | cons i ids =>
        exact (exec_indexTombstone (c.enrich k) c.registry (c.limit k) w (i :: ids)).trans
          (writing_of_ne_nil w (List.cons_ne_nil i ids) _)
  have hnext : next (c.reconciler k) (.upserted claim asked report p)
      = orFail claim ((if !p.tombstoned.isEmpty then (c.reconciler k).index.tombstone p.tombstoned
        else pure ()) >>= fun _ => pure (.written claim asked report)) := by
    rw [next]
    congr 1
    split
    · rfl
    · rfl
  rw [hnext, exec_call, hcall]

/-- A claim that is ready to commit: the tasks that could be read are to be deleted as well. -/
def ready (registry : Registry) (claim asked : Claim) : Claim :=
  asked.delete ((references registry claim.tasks).map Prod.fst)

theorem exec_written (claim asked : Claim) (report : Report) :
    (next (c.reconciler k) (.written claim asked report)).exec w
      = (.ok (.resting (some (.ok report))),
        { w with queue := w.queue.commitClaim (ready c.registry claim asked) }) := rfl

theorem exec_failed (claim : Claim) (e : Error) :
    (next (c.reconciler k) (.failed claim e)).exec w
      = (.ok (.resting (some (.error e))), { w with queue := w.queue.release claim }) := rfl

/-! ### What a call leaves in the index -/

variable {x after : Index} {ids : List EntityId}

theorem reached_of_writing_ok (h : (writing x ids after).1 = .ok ()) {e : EntityId} (he : e ∈ ids) :
    x.available = true ∧ e ∉ x.rejected := by
  rw [writing, if_neg (List.ne_nil_of_mem he)] at h
  split at h
  · exact ⟨‹_›, Index.verdict_eq_ok_iff.mp h e he⟩
  · cases h

theorem stored?_writing_of_reached {e : EntityId}
    (h : e ∈ ids ∧ x.available = true ∧ e ∉ x.rejected) :
    (writing x ids after).2.stored? e = after.stored? e := by
  rw [writing, if_neg (List.ne_nil_of_mem h.1), if_pos h.2.1]

/-- Nothing changes where the call does not reach. -/
theorem stored?_writing_of_not_reached
    (hafter : ∀ e, e ∈ x.rejected ∨ e ∉ ids → after.stored? e = x.stored? e) {e : EntityId}
    (h : ¬(e ∈ ids ∧ x.available = true ∧ e ∉ x.rejected)) :
    (writing x ids after).2.stored? e = x.stored? e := by
  rw [writing]
  split
  · rfl
  · split
    · rename_i hup
      refine hafter e ?_
      by_contra hnot
      rw [not_or, not_not] at hnot
      exact h ⟨hnot.2, hup, hnot.1⟩
    · rfl

end Outbox.Fleet
