import Outbox.Enrichment
import Outbox.Proofs.Search.Hosting
import Outbox.Proofs.Search.Rejection
import Outbox.Proofs.Simulation.InMemory

/-!
# What an enrichment cannot do

Enrichments are written by others.  One may rewrite identifier and version of a document, and any
member of its body; what it writes goes into the index, and later ticks go by what they read there.
Still two simulations that differ in the enrichment show the same at every step, and have the same
queue, the same dead letters and the same writes: an index is blind to bodies, in memory as over a
connection to a server.

* `blind_hosted`, `confined_hosted` — a simulation on an index that is behind a server with outages;
* `enrichment_without_influence` — any two enrichments, any commands.
-/

namespace Outbox.Simulation

open Outbox.Json Outbox.Memory Outbox.Search

variable {σ : Type}

/-! ### An index behind a server -/

/-- What is done to a server besides using it: it goes down and comes back, and rejects identifiers
from now on. -/
def inspectHosted (c : IndexCommand) (x : Hosted σ × Notes) : Answer × (Hosted σ × Notes) :=
  match c with
  | .setAvailable on => (.done, { x.1 with available := on }, x.2)
  | .reject id => (.done, { x.1 with rejected := id :: x.1.rejected }, x.2)
  | _ => (.done, x)

/-- A simulation on an index behind a server, with notes of what is sent. -/
def Setup.hosted (settings : Search.Settings) (h : Hosting σ) (enrich : Transform)
    (registry : Registry) (limit : Int) : Setup (Hosted σ × Notes) :=
  ⟨Client.backend settings h.transport.noting, inspectHosted, enrich, registry, limit⟩

section

variable {settings : Search.Settings} {h : Hosting σ} {held : σ → Holdings} {registry : Registry}
  {limit : Int}

theorem blind_hosted (hhosts : Hosts settings h held) (f : Transform) :
    (Setup.hosted settings h f registry limit).Blind (Hosted.Akin settings held) := by
  refine ⟨backend_blind hhosts, fun c x x' hx => ?_⟩
  cases c with
  | setAvailable on => exact ⟨.refl _, hx.rejected, rfl, hx.held, hx.notes⟩
  | reject id =>
      exact ⟨.refl _, congrArg (id :: ·) hx.rejected, hx.available, hx.held, hx.notes⟩
  | _ => exact ⟨.refl _, hx⟩

theorem confined_hosted (f : Transform) :
    (Setup.hosted settings h f registry limit).Confined SentOr := by
  refine ⟨backend_confined h.transport, fun P c x _ => ?_⟩
  refine ⟨[], ?_, fun n hn => nomatch hn⟩
  cases c with
  | _ => exact (List.append_nil _).symm

end

/-! ### Any two enrichments -/

/-- A source shows what a command may write for an identifier. -/
def Depicts (f : Transform) (st : Store) (c : Command) (i : EntityId) (source : Tree) : Prop :=
  ∃ updated body, Offers f st c i updated body ∧ Pictures source i updated body

theorem depicts_source {f : Transform} {st : Store} {c : Command} {d : Document}
    (h : Offered f st c d) : Depicts f st c d.id (tree d.source) :=
  ⟨d.updated, d.body, h, pictures_source d⟩

/-- **An enrichment is without influence** on anything but bodies.  Two runs of the same commands,
with different enrichments, show the same at every step and leave the same behind it, on an index in
memory, and on one behind a server that keeps what is written and goes down and rejects as it likes:
queue, dead letters, transactions and claims, the identifiers of every write, and what is read from
the index.  And every source that a command has written, in memory or to the server, has identifier
and version from the entity, is not flagged, and has of the enriched body all the rest. -/
theorem enrichment_without_influence {settings : Search.Settings} {h : Hosting σ}
    {held : σ → Holdings} (hhosts : Hosts settings h held) (f g : Transform) (registry : Registry)
    (limit : Int) (cs : List Command) {w : World (Hosted σ × Notes)}
    (htyped : ∀ id source, held w.index.1.server settings.index id = some source → Typed source) :
    (∀ m : World Index, List.Forall₂ (SameStep Index.Akin)
        (run (Setup.inMemory f registry limit) cs m) (run (Setup.inMemory g registry limit) cs m)) ∧
      List.Forall₂ (SameStep (Hosted.Akin settings held))
        (run (Setup.hosted settings h f registry limit) cs w)
        (run (Setup.hosted settings h g registry limit) cs w) ∧
      (∀ c (m : World Index) i d,
        (step (Setup.inMemory f registry limit) c m).2.index.stored? i = some (.live d) →
          m.index.stored? i = some (.live d) ∨ Depicts f m.store c i (tree d.source)) ∧
      ∀ c (v : World (Hosted σ × Notes)), ∃ new,
        (step (Setup.hosted settings h f registry limit) c v).2.index.2 = v.index.2 ++ new ∧
          ∀ n ∈ new, n.1.contentType = "application/x-ndjson" →
            ∃ writes, writes? n.1.body = some writes ∧ ∀ write ∈ writes,
              write.source = tree tombstoneSource ∨
                ∃ i, write.id = i.text ∧ Depicts f v.store c i write.source := by
  refine ⟨fun m => ?_, ?_, fun c m i d hd => ?_, fun c v => ?_⟩
  · exact run_alike (blind_inMemory .unchanged) f g cs (.refl (.refl m.index))
  · exact run_alike (blind_hosted hhosts .unchanged) f g cs (.refl (.refl htyped))
  · cases step_confined (confined_inMemory f) c m i d hd with
    | inl hkept => exact .inl hkept
    | inr hnew =>
        obtain ⟨rfl, hoffered⟩ := hnew
        exact .inr (depicts_source hoffered)
  · obtain ⟨new, hnew, hsent⟩ := step_confined (confined_hosted f) c v
    refine ⟨new, hnew, fun n hn htype => ?_⟩
    obtain ⟨writes, hwrites, hsources⟩ := hsent n hn htype
    refine ⟨writes, hwrites, fun write hwrite => ?_⟩
    cases hsources write hwrite with
    | inl htomb => exact .inl htomb
    | inr hdoc =>
        obtain ⟨d, hoffered, hid, hsource⟩ := hdoc
        exact .inr ⟨d.id, hid, hsource ▸ depicts_source hoffered⟩

/-! ### A server in memory -/

/-- The way to a server in memory; while it is down, something else answers for it. -/
def shelved (settings : Search.Settings) : Hosting Holdings :=
  ⟨Shelf.transport settings.index, .reply 503 [] true⟩

theorem hosts_shelved (settings : Search.Settings) :
    Hosts settings (shelved settings) fun held => held :=
  ⟨Shelf.stores settings, fun _ _ _ => rfl⟩

/-- Nothing is written yet. -/
def beginning : World (Hosted Holdings × Notes) :=
  .start ⟨0, 0⟩ (⟨fun _ _ => none, [], true⟩, [])

/-- An entity is indexed, and its next task waits until the index is up again. -/
def outage : List Command :=
  [.putLive ⟨.ofNat 1⟩ ⟨5, 0⟩ (.object [("text", .string "a")]),
    .enqueue ⟨.ofNat 1⟩ syncEntityTag .now, .reconcile, .enqueue ⟨.ofNat 1⟩ syncEntityTag .now,
    .onIndex (.setAvailable false), .reconcile, .onIndex (.setAvailable true), .reconcile]

/-- What happens with an enrichment. -/
def underOutage (f : Transform) : List (Except Error Answer × World (Hosted Holdings × Notes)) :=
  run (Setup.hosted nearby (shelved nearby) f .standard 10) outage beginning

theorem enrichment_without_influence_outage :
    Hosts nearby (shelved nearby) (fun held => held) ∧
      (∀ id source, beginning.index.1.server nearby.index id = some source → Typed source) ∧
      (underOutage Enrichment.shadow).map Prod.fst
        = [.ok .done, .ok (.task (taskNumber 0)), .ok (.report ⟨1, 0, 0, 1, 1, 0⟩),
          .ok (.task (taskNumber 1)), .ok .done, .error (.index 503 ""), .ok .done,
          .ok (.report ⟨1, 0, 1, 0, 0, 0⟩)] ∧
      List.Forall₂ (SameStep (Hosted.Akin nearby fun held => held))
        (underOutage Enrichment.shadow) (underOutage Enrichment.relabel) := by
  have htyped : ∀ id source, beginning.index.1.server nearby.index id = some source →
      Typed source := fun _ _ => nofun
  have hruns := enrichment_without_influence (hosts_shelved nearby) Enrichment.shadow
    Enrichment.relabel .standard 10 outage htyped
  exact ⟨hosts_shelved nearby, htyped, by decide +kernel, hruns.2.1⟩

end Outbox.Simulation
