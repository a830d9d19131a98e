import Outbox.Proofs.Indexer
import Outbox.Proofs.Reconciler.Journal

/-!
# The calls by which identifiers are brought up to date

Whatever store and index are, a run reads entities at most once, then writes documents at most once,
and then tombstones at most once; a call that fails is the last, and nothing is written that is empty.
-/

namespace Outbox.Indexer

open Outbox.Reconciler

variable {σ κ α β : Type}

/-- A plan is written by one call after another, either of which may be left out. -/
theorem write_eq (index : SearchIndex σ) (p : Plan) : write index p
    = (if !p.documents.isEmpty then index.upsert p.documents else pure ()) >>= fun _ =>
        if !p.tombstoned.isEmpty then index.tombstone p.tombstoned else pure () := by
  rw [write]
  split
  · rfl
  · rfl

/-- The calls that write a plan. -/
def writes (p : Plan) : List (Call κ) :=
  (if p.documents = [] then [] else [.upsert p.documents]) ++
    if p.tombstoned = [] then [] else [.tombstone p.tombstoned]

/-- The calls of a run for some identifiers. -/
def calls (ids : List EntityId) (p : Plan) : List (Call κ) := .entities ids :: writes p

/-- The first of some calls were made, up to one that failed, and all of them if there is a value. -/
structure InTurn (cs : List (Call κ)) (x : Except Error α) (es : List (Entry σ κ)) : Prop where
  made : es.map Entry.call <+: cs
  /-- What is followed by another call did not fail. -/
  last : es.Pairwise fun e _ => e.failure = none
  done : failure? x = none → es.map Entry.call = cs ∧ ∀ e ∈ es, e.failure = none

namespace InTurn

variable {cs cs' : List (Call κ)} {es es' : List (Entry σ κ)}

theorem nil (x : Except Error α) : InTurn (σ := σ) (κ := κ) [] x [] :=
  ⟨List.prefix_refl _, .nil, fun _ => ⟨rfl, List.forall_mem_nil _⟩⟩

/-- After a value the next calls follow. -/
theorem append {a : α} {y : Except Error β} (h : InTurn cs (.ok a) es) (h' : InTurn cs' y es') :
    InTurn (cs ++ cs') y (es ++ es') := by
  obtain ⟨hcalls, hdone⟩ := h.done rfl
  refine ⟨?_, ?_, fun hy => ⟨?_, ?_⟩⟩
  · rw [List.map_append, hcalls]
    exact (List.prefix_append_right_inj cs).mpr h'.made
  · exact List.pairwise_append.mpr ⟨h.last, h'.last, fun e he _ _ => hdone e he⟩
  · rw [List.map_append, hcalls, (h'.done hy).1]
  · exact List.forall_mem_append.mpr ⟨hdone, (h'.done hy).2⟩

/-- After an error nothing follows. -/
theorem error {e : Error} (h : InTurn (α := α) cs (.error e) es) (cs' : List (Call κ)) :
    InTurn (α := β) (cs ++ cs') (.error e) es :=
  ⟨h.made.trans (List.prefix_append cs cs'), h.last, nofun⟩

end InTurn

variable (r : Reconciler σ κ)

theorem keeps_call {a : Action σ α} {c : Call κ} (hentry : ∀ s, r.entry c s = .of c a s) (s : σ) :
    Keeps r (InTurn [c]) (logging c a) a s := by
  refine (Keeps.call hentry s).mono ?_
  rintro x es ⟨-, e, rfl, rfl, hfailure⟩
  refine ⟨List.prefix_refl _, List.pairwise_singleton _ _, fun hx => ⟨rfl, ?_⟩⟩
  rw [List.forall_mem_singleton, hfailure, hx]

theorem keeps_writes (p : Plan) (s : σ) :
    Keeps r (InTurn (writes p)) (write r.logged.index p) (write r.index p) s := by
  have hdocs : Keeps r (InTurn (if p.documents = [] then [] else [.upsert p.documents]))
      (if !p.documents.isEmpty then r.logged.index.upsert p.documents else pure ())
      (if !p.documents.isEmpty then r.index.upsert p.documents else pure ()) s := by
    cases p.documents with
    | nil => exact .value (.nil _) s
    | cons d docs => exact keeps_call r (c := .upsert (d :: docs)) (fun _ => rfl) s
  have htombs : ∀ s, Keeps r (InTurn (if p.tombstoned = [] then [] else [.tombstone p.tombstoned]))
      (if !p.tombstoned.isEmpty then r.logged.index.tombstone p.tombstoned else pure ())
      (if !p.tombstoned.isEmpty then r.index.tombstone p.tombstoned else pure ()) s := by
    intro s
    cases p.tombstoned with
    | nil => exact .value (.nil _) s
    | cons i ids => exact keeps_call r (c := .tombstone (i :: ids)) (fun _ => rfl) s
  rw [write_eq, write_eq]
  refine hdocs.bind (fun e es hes => hes.error _) fun u s' es _ hes => ?_
  exact (htombs s').mono fun _ _ => hes.append

/-- **The calls of a run.**  For no identifiers there are none. -/
structure Sparing (ids : List EntityId) (x : Except Error α) (es : List (Entry σ κ)) : Prop where
  silent : ids = [] → es = []
  inTurn : ids ≠ [] → ∃ p, InTurn (calls (distinct ids) p) x es

theorem keeps_sparing (ids : List EntityId) (s : σ) :
    Keeps r (Sparing ids) (run r.logged.store r.logged.index r.enrich ids)
      (run r.store r.index r.enrich ids) s := by
  rw [run, run]
  split
  · rename_i hempty
    have hids : ids = [] := by
      cases ids with
      | nil => rfl
      | cons i ids => cases hempty
    exact .value ⟨fun _ => rfl, fun hne => absurd hids hne⟩ s
  · rename_i hne
    have hids : ids ≠ [] := by
      rintro rfl
      exact hne rfl
    suffices h : Keeps r (fun x es => ∃ p, InTurn (calls (distinct ids) p) x es) _ _ s from
      h.mono fun x es hes => ⟨fun hnil => absurd hnil hids, fun _ => hes⟩
    refine (keeps_call r (c := .entities (distinct ids)) (fun _ => rfl) s).bind ?_ ?_
    · exact fun e es hes => ⟨⟨[], []⟩, hes.error (writes ⟨[], []⟩)⟩
    · intro found s' es _ hes
      let p := plan r.enrich (distinct ids) found
      refine (keeps_writes r p s').bind ?_ ?_
      · intro e es' hes'
        have herror : InTurn (writes p ++ []) (Except.error e : Except Error Outcome) es' :=
          hes'.error []
        rw [List.append_nil] at herror
        exact ⟨p, hes.append herror⟩
      · intro u s'' es' _ hes'
        have hvalue := hes'.append
          (.nil (.ok (Outcome.mk (p.documents.map Document.id) p.tombstoned)))
        rw [List.append_nil] at hvalue
        exact .value ⟨p, hes.append hvalue⟩ s''

end Outbox.Indexer
