import Outbox.Proofs.Lockstep
import Outbox.Proofs.Simulation.Tick

/-!
# Runs that differ in bodies

Two runs of a simulation with different enrichments hand documents to the index that differ in their
bodies at most, since an enriched document gets identifier and version from the entity.  An index may
well hold such bodies; what a later tick reads back must not depend on them.  If that is so of each
call (`SearchIndex.Blind`), it is so of any number of commands.

* `lockstep_write`, `lockstep_work` — what a plan and a claim ask of the index;
* `step_alike` — one command, whatever it is;
* `run_alike` — any commands in turn.
-/

namespace Outbox

open Outbox.Action

/-- Two documents that differ in their bodies at most. -/
structure Document.Alike (d d' : Document) : Prop where
  id : d.id = d'.id
  updated : d.updated = d'.updated

theorem ids_of_alike {docs docs' : List Document} (h : List.Forall₂ Document.Alike docs docs') :
    docs.map Document.id = docs'.map Document.id :=
  map_eq_of_forall₂ h fun _ _ hd => hd.id

/-- An index that is blind to bodies: on states that `R` relates, calls that differ in bodies at most
answer the same, and leave related states. -/
structure SearchIndex.Blind {ι : Type} (R : ι → ι → Prop) (b : SearchIndex ι) : Prop where
  statuses : ∀ ids, Lockstep R Eq (b.statuses ids) (b.statuses ids)
  upsert : ∀ docs docs', List.Forall₂ Document.Alike docs docs' →
    Lockstep R Eq (b.upsert docs) (b.upsert docs')
  tombstone : ∀ ids, Lockstep R Eq (b.tombstone ids) (b.tombstone ids)

namespace Indexer

/-- Two plans that differ in bodies at most. -/
structure Plan.Alike (p p' : Plan) : Prop where
  documents : List.Forall₂ Document.Alike p.documents p'.documents
  tombstoned : p.tombstoned = p'.tombstoned

/-- **An enrichment changes nothing but bodies.** -/
theorem plan_alike (f g : Transform) (ids : List EntityId) (entities : List Entity) :
    (plan f ids entities).Alike (plan g ids entities) := by
  refine ⟨?_, rfl⟩
  rw [plan, plan, List.forall₂_map_left_iff, List.forall₂_map_right_iff, List.forall₂_same]
  exact fun e _ => ⟨rfl, rfl⟩

theorem lockstep_write {ι : Type} {R : ι → ι → Prop} {b : SearchIndex ι} (hblind : b.Blind R)
    {p p' : Plan} (h : p.Alike p') : Lockstep R Eq (write b p) (write b p') := by
  have htombs : Lockstep R Eq (if !p.tombstoned.isEmpty then b.tombstone p.tombstoned else pure ())
      (if !p.tombstoned.isEmpty then b.tombstone p.tombstoned else pure ()) := by
    cases p.tombstoned.isEmpty with
    | true => exact .pure rfl
    | false => exact hblind.tombstone p.tombstoned
  rw [write, write, ← isEmpty_of_forall₂ h.documents, ← h.tombstoned]
  cases p.documents.isEmpty with
  | true => exact htombs
  | false => exact (hblind.upsert _ _ h.documents).bind fun _ _ _ => htombs

end Indexer

namespace Simulation

open Outbox.Memory Outbox.Reconciler

variable {ι : Type} {R : ι → ι → Prop} {s : Setup ι}

/-- A simulation with an enrichment. -/
def Setup.hooked (s : Setup ι) (f : Transform) : Setup ι := { s with enrich := f }

/-! ### The work on a claim -/

theorem lockstep_work (hblind : s.index.Blind R) (f g : Transform) (tasks : List Task)
    (st : Store) :
    Lockstep R Eq ((s.hooked f).work tasks st) ((s.hooked g).work tasks st) := by
  refine (hblind.statuses _).bind fun held held' heq => ?_
  subst heq
  let verdict := classify (st.statuses (referenced (references s.registry tasks))) held
  let todo := stale (references s.registry tasks) verdict
  have hupdate : ∀ f, (s.hooked f).update tasks st held
      = if todo = [] then pure (report s.registry tasks verdict)
        else (do
          Indexer.write s.index (Setup.planned f st todo)
          pure (report s.registry tasks verdict)) := fun _ => rfl
  rw [hupdate f, hupdate g]
  split
  · exact .pure rfl
  · exact (Indexer.lockstep_write hblind (Indexer.plan_alike f g _ _)).bind fun _ _ _ => .pure rfl

/-! ### Worlds that differ in the index -/

/-- Two worlds that differ in the index at most, and there as `R` allows. -/
structure Alike (R : ι → ι → Prop) (w w' : World ι) : Prop where
  queue : w.queue = w'.queue
  store : w.store = w'.store
  transactions : w.transactions = w'.transactions
  claims : w.claims = w'.claims
  created : w.created = w'.created
  index : R w.index w'.index

theorem Alike.refl {w : World ι} (h : R w.index w.index) : Alike R w w :=
  ⟨rfl, rfl, rfl, rfl, rfl, h⟩

theorem Alike.of_index {x x' : ι} (w : World ι) (h : R x x') :
    Alike R { w with index := x } { w with index := x' } :=
  ⟨rfl, rfl, rfl, rfl, rfl, h⟩

theorem Alike.exists_index {w w' : World ι} (h : Alike R w w') :
    ∃ x', R w.index x' ∧ w' = { w with index := x' } := by
  obtain ⟨queue, store, x, transactions, claims, created⟩ := w
  obtain ⟨queue', store', x', transactions', claims', created'⟩ := w'
  obtain ⟨hqueue, hstore, htransactions, hclaims, hcreated, hindex⟩ := h
  dsimp only at *
  subst hqueue hstore htransactions hclaims hcreated
  exact ⟨x', hindex, rfl⟩

/-- What is done to the store does not depend on the index. -/
theorem lockstep_within_store {α : Type} (a : Action Store α) :
    Lockstep (Alike R) Eq (a.within World.storePart) (a.within World.storePart) := by
  intro w w' h
  obtain ⟨x', hx, rfl⟩ := h.exists_index
  exact ⟨matching_eq.mpr rfl, rfl, rfl, rfl, rfl, rfl, hx⟩

theorem lockstep_within_index {α : Type} {a b : Action ι α} (hab : Lockstep R Eq a b) :
    Lockstep (Alike R) Eq (a.within World.indexPart) (b.within World.indexPart) := by
  intro w w' h
  obtain ⟨x', hx, rfl⟩ := h.exists_index
  obtain ⟨hvalue, hstate⟩ := hab w.index x' hx
  exact ⟨hvalue, .of_index w hstate⟩

theorem Alike.onTransaction {w w' : World ι} (h : Alike R w w') (tx : String)
    (f : Transaction → Transaction) : Alike R (w.onTransaction tx f) (w'.onTransaction tx f) := by
  obtain ⟨x', hx, rfl⟩ := h.exists_index
  rw [World.onTransaction, World.onTransaction]
  dsimp only
  split
  · exact ⟨rfl, rfl, rfl, rfl, rfl, hx⟩
  · exact h

theorem Alike.onClaim {w w' : World ι} (h : Alike R w w') (name : String) (f : Claim → Claim) :
    Alike R (w.onClaim name f) (w'.onClaim name f) := by
  obtain ⟨x', hx, rfl⟩ := h.exists_index
  rw [World.onClaim, World.onClaim]
  dsimp only
  split
  · exact ⟨rfl, rfl, rfl, rfl, rfl, hx⟩
  · exact h

theorem Alike.endClaim {w w' : World ι} (h : Alike R w w') (name : String)
    (f : Queue → Claim → Queue) : Alike R (w.endClaim name f) (w'.endClaim name f) := by
  obtain ⟨x', hx, rfl⟩ := h.exists_index
  rw [World.endClaim, World.endClaim]
  dsimp only
  split
  · exact ⟨rfl, rfl, rfl, rfl, rfl, hx⟩
  · exact h

theorem Alike.count {w w' : World ι} (h : Alike R w w') (n : Nat) :
    Alike R (w.count n) (w'.count n) := by
  obtain ⟨x', hx, rfl⟩ := h.exists_index
  exact .of_index (w.count n) hx

theorem Alike.pass {w w' : World ι} (h : Alike R w w') : Alike R (pass w) (pass w') := by
  obtain ⟨x', hx, rfl⟩ := h.exists_index
  exact .of_index (Simulation.pass w) hx

/-- **Indexing** with either enrichment. -/
theorem lockstep_indexing (hblind : s.index.Blind R) (f g : Transform) (ids : List EntityId) :
    Lockstep (Alike R) Eq (Indexer.run s.reconciler.store s.reconciler.index f ids)
      (Indexer.run s.reconciler.store s.reconciler.index g ids) := by
  intro w w' h
  obtain ⟨x', hx, rfl⟩ := h.exists_index
  have hplan : (Setup.planned f w.store ids).Alike (Setup.planned g w.store ids) :=
    Indexer.plan_alike f g _ _
  obtain ⟨hvalue, hstate⟩ := Indexer.lockstep_write hblind hplan w.index x' hx
  rw [matching_eq] at hvalue
  rw [exec_indexing, exec_indexing, matching_eq]
  dsimp only
  split
  · exact ⟨rfl, .of_index w hx⟩
  · split
    · exact ⟨rfl, .of_index w hx⟩
    · rw [hvalue, ids_of_alike hplan.documents, hplan.tombstoned]
      exact ⟨rfl, .of_index w hstate⟩

/-- What an enrichment has to do with a tick is the work on its claim. -/
theorem exec_tick_hooked (s : Setup ι) (f : Transform) (w : World ι) :
    (s.hooked f).reconciler.tick.exec w
      = if (w.queue.claimDue s.limit).1.tasks = [] then (.ok .idle, w)
        else if w.store.available = false then (.error (.database .poolTimedOut), w)
        else
          match ((s.hooked f).work (w.queue.claimDue s.limit).1.tasks w.store).exec w.index with
          | (.ok report, x) =>
            (.ok report, { w with queue := settled s.registry s.limit w.queue, index := x })
          | (.error e, x) => (.error e, { w with index := x }) :=
  exec_tick_work (s.hooked f) w

/-- **A tick** with either enrichment. -/
theorem lockstep_tick (hblind : s.index.Blind R) (f g : Transform) :
    Lockstep (Alike R) Eq (s.hooked f).reconciler.tick (s.hooked g).reconciler.tick := by
  intro w w' h
  obtain ⟨x', hx, rfl⟩ := h.exists_index
  obtain ⟨hvalue, hstate⟩ :=
    lockstep_work hblind f g (w.queue.claimDue s.limit).1.tasks w.store w.index x' hx
  rw [matching_eq] at hvalue
  rw [exec_tick_hooked, exec_tick_hooked, matching_eq]
  dsimp only
  split
  · exact ⟨rfl, .of_index w hx⟩
  · split
    · exact ⟨rfl, .of_index w hx⟩
    · generalize ((s.hooked f).work (w.queue.claimDue s.limit).1.tasks w.store).exec w.index = p at hvalue hstate
      generalize ((s.hooked g).work (w.queue.claimDue s.limit).1.tasks w.store).exec x' = p' at hvalue hstate
      obtain ⟨r, y⟩ := p
      obtain ⟨r', y'⟩ := p'
      obtain rfl : r = r' := hvalue
      cases r with
      | ok report => exact ⟨rfl, rfl, rfl, rfl, rfl, rfl, hstate⟩
      | error e => exact ⟨rfl, .of_index w hstate⟩

/-! ### Commands -/

/-- Two answers that are the same, but for the body of a document that is shown. -/
inductive SameAnswer : Except Error Answer → Except Error Answer → Prop
  | refl (r : Except Error Answer) : SameAnswer r r
  | document {v v' : Option Stored} (h : v.map Stored.status = v'.map Stored.status) :
      SameAnswer (.ok (.document v)) (.ok (.document v'))

/-- What two runs show of a command and leave behind it is the same, but for bodies. -/
structure SameStep (R : ι → ι → Prop) (p p' : Except Error Answer × World ι) : Prop where
  answer : SameAnswer p.1 p'.1
  world : Alike R p.2 p'.2

theorem shown_alike {α : Type} {a b : Action (World ι) α} (hab : Lockstep (Alike R) Eq a b)
    (show_ : α → Answer) {w w' : World ι} (h : Alike R w w') :
    SameStep R (shown show_ a w) (shown show_ b w') := by
  obtain ⟨hvalue, hstate⟩ := hab w w' h
  rw [matching_eq] at hvalue
  refine ⟨?_, hstate⟩
  rw [shown, shown, hvalue]
  exact .refl _

theorem silent_alike {w w' : World ι} (h : Alike R w w') : SameStep R (silent w) (silent w') :=
  ⟨.refl _, h⟩

/-- A simulation on an index that is blind to bodies, also where the index is looked at or changed
otherwise. -/
structure Setup.Blind (R : ι → ι → Prop) (s : Setup ι) : Prop where
  index : s.index.Blind R
  inspect : ∀ c x x', R x x' →
    SameAnswer (.ok (s.inspect c x).1) (.ok (s.inspect c x').1) ∧
      R (s.inspect c x).2 (s.inspect c x').2

/-- **One command** with either enrichment. -/
theorem step_alike (hblind : s.Blind R) (f g : Transform) (c : Command) {w w' : World ι}
    (h : Alike R w w') : SameStep R (step (s.hooked f) c w) (step (s.hooked g) c w') := by
  obtain ⟨x', hx, rfl⟩ := h.exists_index
  cases c with
  | put e => exact silent_alike ⟨rfl, rfl, rfl, rfl, rfl, hx⟩
  | putLive id updated body => exact silent_alike ⟨rfl, rfl, rfl, rfl, rfl, hx⟩
  | markDeleted id => exact silent_alike ⟨rfl, rfl, rfl, rfl, rfl, hx⟩
  | remove id => exact silent_alike ⟨rfl, rfl, rfl, rfl, rfl, hx⟩
  | setStoreAvailable on => exact silent_alike ⟨rfl, rfl, rfl, rfl, rfl, hx⟩
  | primaryStatuses ids =>
      exact shown_alike (lockstep_within_store (Store.backend.statuses ids)) .primaryStatuses h
  | entities ids =>
      exact shown_alike (lockstep_within_store (Store.backend.entities ids)) .entities h
  | updatedBetween start stop =>
      exact shown_alike (lockstep_within_store (Store.backend.updatedBetween start stop)) .ids h
  | onIndex c =>
      obtain ⟨hanswer, hindex⟩ := hblind.inspect c w.index x' hx
      exact ⟨hanswer, .of_index w hindex⟩
  | indexStatuses ids =>
      exact shown_alike (lockstep_within_index (hblind.index.statuses ids)) .indexStatuses h
  | upsert docs =>
      have hsame : List.Forall₂ Document.Alike docs docs :=
        List.forall₂_same.mpr fun d _ => ⟨rfl, rfl⟩
      exact shown_alike (lockstep_within_index (hblind.index.upsert docs docs hsame)) _ h
  | tombstone ids =>
      exact shown_alike (lockstep_within_index (hblind.index.tombstone ids)) _ h
  | enqueue entity tag schedule => exact ⟨.refl _, rfl, rfl, rfl, rfl, rfl, hx⟩
  | begin tx => exact silent_alike ⟨rfl, rfl, rfl, rfl, rfl, hx⟩
  | stage tx entity tag schedule => exact ⟨.refl _, (h.onTransaction tx _).count 1⟩
  | stageRaw tx tag payload schedule => exact ⟨.refl _, (h.onTransaction tx _).count 1⟩
  | stageBatch tx entities tag schedule =>
      exact ⟨.refl _, (h.onTransaction tx _).count entities.length⟩
  | commitTransaction tx => exact silent_alike ⟨rfl, rfl, rfl, rfl, rfl, hx⟩
  | dropTransaction tx => exact silent_alike ⟨rfl, rfl, rfl, rfl, rfl, hx⟩
  | advance millis => exact silent_alike ⟨rfl, rfl, rfl, rfl, rfl, hx⟩
  | claim name limit =>
      obtain ⟨y', hy, heq⟩ := (h.endClaim name Queue.release).exists_index
      rw [step, step]
      dsimp only
      rw [heq]
      exact ⟨.refl _, rfl, rfl, rfl, rfl, rfl, hy⟩
  | delete name ids => exact silent_alike (h.onClaim name _)
  | quarantine name id reason =>
      rw [step, step]
      dsimp only
      split
      · exact silent_alike (h.onClaim name _)
      · exact silent_alike h
  | commitClaim name => exact silent_alike (h.endClaim name _)
  | rollback name => exact silent_alike (h.endClaim name _)
  | dropClaim name => exact silent_alike (h.endClaim name _)
  | tasks => exact ⟨.refl _, h⟩
  | deadLetters => exact ⟨.refl _, h⟩
  | limit => exact ⟨.refl _, h⟩
  | reconcile => exact shown_alike (lockstep_tick hblind.index f g) .report h
  | index ids => exact shown_alike (lockstep_indexing hblind.index f g ids) .outcome h
  | indexPlain ids =>
      exact shown_alike (lockstep_indexing hblind.index .unchanged .unchanged ids) .outcome h

/-- **Any commands in turn** with either enrichment. -/
theorem run_alike (hblind : s.Blind R) (f g : Transform) (cs : List Command) {w w' : World ι}
    (h : Alike R w w') :
    List.Forall₂ (SameStep R) (run (s.hooked f) cs w) (run (s.hooked g) cs w') := by
  induction cs generalizing w w' with
  | nil => exact .nil
  | cons c cs ih =>
      have hstep := step_alike hblind f g c h
      exact .cons hstep (ih hstep.world.pass)

end Simulation

end Outbox
