import Outbox.Proofs.Search.Agreement
import Outbox.Proofs.Simulation.Tick

/-!
# What a command has written

The source of a document has identifier, version and flag of its own, and under every other name what
the body has there (`Pictures`).  Which documents a command hands to the index is said by `Offers`: of
an entity that is live in the store, with the body that the enrichment gave it, or those that the
command itself names.

An index may have more than one way to get at what was written, so the statement about a command is
made for any relation between the states before and after that calls of the index respect
(`SearchIndex.Confined`).

* `pictures_source` — the source of a document;
* `step_confined` — what a command has written is what it offers.
-/

namespace Outbox

open Outbox.Json Outbox.Memory Outbox.Time

/-! ### Sources -/

/-- The members that a source has of its own. -/
def ownMembers : List String := ["id", "updated", "deleted"]

/-- A source shows an identifier, a version and that it is live, and a body elsewhere. -/
structure Pictures (source : Tree) (id : EntityId) (updated : Timestamp) (body : Members) : Prop where
  id : source.member? "id" = some (.string (some id.text))
  updated : source.member? "updated" = some (.string (some (String.ofList updated.version)))
  deleted : source.member? "deleted" = some (.bool false)
  others : ∀ name, name ∉ ownMembers → source.member? name = (Table.find? body name).map tree

/-- **A source wins over the body** in its own members, and nowhere else. -/
theorem pictures_source (d : Document) : Pictures (tree d.source) d.id d.updated d.body := by
  refine ⟨?_, Search.updated_source d, Search.deleted_source d, fun name hname => ?_⟩
  · rw [Document.source, member?_tree_object]
    simp [Table.find?_insert, tree]
  · simp only [ownMembers, List.mem_cons, List.not_mem_nil, or_false, not_or] at hname
    obtain ⟨hid, hupdated, hdeleted⟩ := hname
    rw [Document.source, member?_tree_object, Table.find?_insert, if_neg (Ne.symm hdeleted),
      Table.find?_insert, if_neg (Ne.symm hupdated), Table.find?_insert, if_neg (Ne.symm hid)]

/-! ### Calls -/

variable {ι : Type}

/-- What calls of an index change is within `T`, which may depend on the documents that are handed
over. -/
structure SearchIndex.Confined (T : (Document → Prop) → ι → ι → Prop) (b : SearchIndex ι) :
    Prop where
  refl : ∀ P x, T P x x
  trans : ∀ P x y z, T P x y → T P y z → T P x z
  statuses : ∀ P ids x, T P x ((b.statuses ids).exec x).2
  upsert : ∀ P docs x, (∀ d ∈ docs, P d) → T P x ((b.upsert docs).exec x).2
  tombstone : ∀ P ids x, T P x ((b.tombstone ids).exec x).2

variable {T : (Document → Prop) → ι → ι → Prop} {b : SearchIndex ι} {P : Document → Prop}

/-- What two actions in turn change is within `T` if it is for each. -/
theorem SearchIndex.Confined.bind {α β : Type} (h : b.Confined T) {a : Action ι α}
    {f : α → Action ι β} (ha : ∀ x, T P x (a.exec x).2) (hf : ∀ y x, T P x ((f y).exec x).2) (x : ι) :
    T P x ((a >>= f).exec x).2 := by
  have hfirst := ha x
  rw [Action.exec_bind]
  generalize a.exec x = p at hfirst
  obtain ⟨r, y⟩ := p
  cases r with
  | ok v => exact h.trans P x y _ hfirst (hf v y)
  | error e => exact hfirst

theorem SearchIndex.Confined.write (h : b.Confined T) {p : Indexer.Plan}
    (hdocs : ∀ d ∈ p.documents, P d) (x : ι) : T P x ((Indexer.write b p).exec x).2 := by
  have htombs : ∀ x, T P x ((if !p.tombstoned.isEmpty then b.tombstone p.tombstoned
      else pure () : Action ι Unit).exec x).2 := by
    intro x
    cases p.tombstoned.isEmpty with
    | true => exact h.refl P x
    | false => exact h.tombstone P p.tombstoned x
  rw [Indexer.write]
  cases p.documents.isEmpty with
  | true => exact htombs x
  | false => exact h.bind (fun x => h.upsert P p.documents x hdocs) (fun _ => htombs) x

namespace Simulation

open Outbox.Reconciler

/-! ### Commands -/

/-- What a command may write: identifier, version and body, by the store at that time. -/
inductive Offers (f : Transform) (st : Store) :
    Command → EntityId → Timestamp → Members → Prop
  /-- A tick writes live entities, enriched. -/
  | reconciled {i : EntityId} {e : Entity} (h : st.live? i = some e) :
      Offers f st .reconcile e.id e.updated (f e (.ofEntity e)).body
  | indexed {ids : List EntityId} {i : EntityId} {e : Entity} (hi : i ∈ ids)
      (h : st.live? i = some e) :
      Offers f st (.index ids) e.id e.updated (f e (.ofEntity e)).body
  | plain {ids : List EntityId} {i : EntityId} {e : Entity} (hi : i ∈ ids)
      (h : st.live? i = some e) :
      Offers f st (.indexPlain ids) e.id e.updated e.body
  | given {docs : List Document} {d : Document} (h : d ∈ docs) :
      Offers f st (.upsert docs) d.id d.updated d.body
  | seeded (d : Document) : Offers f st (.onIndex (.seed d)) d.id d.updated d.body

/-- A document is among what a command may write. -/
def Offered (f : Transform) (st : Store) (c : Command) (d : Document) : Prop :=
  Offers f st c d.id d.updated d.body

/-- A simulation on an index whose calls, and what else changes it, are within `T`. -/
structure Setup.Confined (T : (Document → Prop) → ι → ι → Prop) (s : Setup ι) : Prop where
  index : s.index.Confined T
  inspect : ∀ P c x, (∀ d, c = .seed d → P d) → T P x (s.inspect c x).2

variable {s : Setup ι} {w : World ι}

/-- What is planned for identifiers is offered if their live entities are. -/
theorem of_mem_planned {f : Transform} {ids : List EntityId}
    (h : ∀ i ∈ ids, ∀ e, w.store.live? i = some e → P (Indexer.document f e)) :
    ∀ d ∈ (Setup.planned f w.store ids).documents, P d := by
  intro d hd
  obtain ⟨i, hi, e, he, rfl⟩ := Indexer.mem_documents.mp hd
  exact h i (mem_distinct.mp hi) e he

theorem indexing_confined (hconfined : s.index.Confined T) {f : Transform} {ids : List EntityId}
    (h : ∀ i ∈ ids, ∀ e, w.store.live? i = some e → P (Indexer.document f e)) :
    T P w.index ((Indexer.run s.reconciler.store s.reconciler.index f ids).exec w).2.index := by
  rw [exec_indexing]
  split
  · exact hconfined.refl P w.index
  · split
    · exact hconfined.refl P w.index
    · exact hconfined.write (of_mem_planned h) w.index

theorem work_confined (hconfined : s.index.Confined T) (tasks : List Task)
    (h : ∀ i e, w.store.live? i = some e → P (Indexer.document s.enrich e)) (x : ι) :
    T P x ((s.work tasks w.store).exec x).2 := by
  refine hconfined.bind (hconfined.statuses P _) (fun held x => ?_) x
  rw [Setup.update]
  split
  · exact hconfined.refl P x
  · refine hconfined.bind (hconfined.write (of_mem_planned fun i _ => h i)) (fun _ x => ?_) x
    exact hconfined.refl P x

theorem tick_confined (hconfined : s.index.Confined T)
    (h : ∀ i e, w.store.live? i = some e → P (Indexer.document s.enrich e)) :
    T P w.index (s.reconciler.tick.exec w).2.index := by
  have hwork := work_confined hconfined (w.queue.claimDue s.limit).1.tasks h w.index
  rw [exec_tick_work]
  split
  · exact hconfined.refl P w.index
  · split
    · exact hconfined.refl P w.index
    · generalize (s.work (w.queue.claimDue s.limit).1.tasks w.store).exec w.index = p at hwork
      obtain ⟨r, x⟩ := p
      cases r with
      | ok report => exact hwork
      | error e => exact hwork

@[simp] theorem index_onTransaction (w : World ι) (tx : String) (f : Transaction → Transaction) :
    (w.onTransaction tx f).index = w.index := by
  rw [World.onTransaction]
  split
  · rfl
  · rfl

@[simp] theorem index_onClaim (w : World ι) (name : String) (f : Claim → Claim) :
    (w.onClaim name f).index = w.index := by
  rw [World.onClaim]
  split
  · rfl
  · rfl

@[simp] theorem index_endClaim (w : World ι) (name : String) (f : Queue → Claim → Queue) :
    (w.endClaim name f).index = w.index := by
  rw [World.endClaim]
  split
  · rfl
  · rfl

/-- **What a command has written is what it offers.** -/
theorem step_confined (hconfined : s.Confined T) (c : Command) (w : World ι) :
    T (Offered s.enrich w.store c) w.index (step s c w).2.index := by
  have hsame := hconfined.index.refl (Offered s.enrich w.store c) w.index
  cases c with
  | onIndex c =>
      refine hconfined.inspect _ c w.index fun d hd => ?_
      subst hd
      exact .seeded d
  | indexStatuses ids => exact hconfined.index.statuses _ ids w.index
  | upsert docs => exact hconfined.index.upsert _ docs w.index fun d hd => .given hd
  | tombstone ids => exact hconfined.index.tombstone _ ids w.index
  | reconcile => exact tick_confined hconfined.index fun i e he => .reconciled he
  | index ids => exact indexing_confined hconfined.index fun i hi e he => .indexed hi he
  | indexPlain ids => exact indexing_confined hconfined.index fun i hi e he => .plain hi he
  | stage tx entity tag schedule => simpa [step, World.count] using hsame
  | stageRaw tx tag payload schedule => simpa [step, World.count] using hsame
  | stageBatch tx entities tag schedule => simpa [step, World.count] using hsame
  | claim name limit => simpa [step] using hsame
  | delete name ids => simpa [step, silent] using hsame
  | quarantine name id reason =>
      rw [step]
      split
      · simpa [silent] using hsame
      · exact hsame
  | commitClaim name => simpa [step, silent] using hsame
  | rollback name => simpa [step, silent] using hsame
  | dropClaim name => simpa [step, silent] using hsame
  | _ => exact hsame

end Simulation

end Outbox
