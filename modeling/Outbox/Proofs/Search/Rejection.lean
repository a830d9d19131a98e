import Outbox.Proofs.Reconciler.Journal
import Outbox.Proofs.Search.Client
import Outbox.Search.Script
import Outbox.Simulation.World

/-!
# Writes that the index rejects

The reply to a bulk write says by a flag whether anything failed, and says of each item whether it was
rejected.  The flag comes first: a reply that says that nothing failed is not looked into any
further.  Under a flag that says so, a rejected item whose identifier can be read fails the write, and
a tick whose write fails commits nothing.

So where the flag and the items do not agree, a write of which something failed is taken for a success,
and the task that asked for it is deleted.

* `rejected_write` — how a write goes by its reply, and what that means for a tick;
* `unheeded_rejections` — three replies by which a write succeeds that was rejected.
-/

namespace Outbox.Search

open Outbox.Reconciler Outbox.Simulation

variable {σ : Type}

/-- What a call writes to the index. -/
def written {κ : Type} : Call κ → List Item
  | .upsert docs => docs.map fun d => (d.id, d.source)
  | .tombstone ids => ids.map fun i => (i, tombstoneSource)
  | _ => []

/-- Nothing failed, by the flag of a reply and by all of its items. -/
structure BulkReply.Clear (reply : BulkReply) : Prop where
  flag : reply.errors = false
  items : ∀ r ∈ reply.items.flatten, ¬(r.error.isSome = true ∨ 300 ≤ r.status)

/-- The flag of a reply and its items agree: if nothing failed then nothing was rejected, and if something
failed then it is said of what. -/
structure BulkReply.Consistent (reply : BulkReply) : Prop where
  unflagged : reply.errors = false →
    ∀ r ∈ reply.items.flatten, ¬(r.error.isSome = true ∨ 300 ≤ r.status)
  flagged : reply.errors = true → ∃ i, reply.Rejects i

/-- How a write goes by its reply. -/
structure GoesBy (reply : BulkReply) (outcome : Except Error Unit) : Prop where
  /-- Where nothing failed, the items do not count. -/
  trusted : reply.errors = false → outcome = .ok ()
  /-- A rejection under a flag fails the write, and the error names what was rejected. -/
  refused : reply.errors = true → (∃ i, reply.Rejects i) →
    ∃ failed, outcome = .error (.partialBatchFailure failed) ∧ ∀ i, i ∈ failed ↔ reply.Rejects i
  /-- A success is one by the flag, or because nothing was rejected. -/
  success : outcome = .ok () → reply.errors = false ∨ ∀ i, ¬reply.Rejects i
  /-- So a success means that nothing failed exactly where the flag and the items agree. -/
  reliable_iff : (outcome = .ok () → reply.Clear) ↔ reply.Consistent

theorem judged_eq_ok_iff {reply : BulkReply} :
    Client.judged reply = .ok () ↔ reply.errors = false ∨ ∀ i, ¬reply.Rejects i := by
  have hnone : reply.failedIds = [] ↔ reply.errors = false ∨ ∀ i, ¬reply.Rejects i := by
    rw [List.eq_nil_iff_forall_not_mem]
    simp only [mem_failedIds, not_and, imp_iff_not_or, Bool.not_eq_true, forall_or_left]
  rw [← hnone, Client.judged]
  split
  · exact iff_of_true rfl ‹_›
  · refine iff_of_false ?_ ‹_›
    rintro ⟨⟩

theorem goesBy_judged (reply : BulkReply) : GoesBy reply (Client.judged reply) := by
  have hfailed : ∀ i, i ∈ reply.failedIds ↔ reply.errors = true ∧ reply.Rejects i :=
    fun i => mem_failedIds
  constructor
  case trusted => exact fun herrors => judged_eq_ok_iff.mpr (.inl herrors)
  case refused =>
    rintro herrors ⟨i, hi⟩
    refine ⟨reply.failedIds, ?_, fun j => (hfailed j).trans (and_iff_right herrors)⟩
    have hmem : i ∈ reply.failedIds := (hfailed i).mpr ⟨herrors, hi⟩
    rw [Client.judged]
    split
    · rename_i hnil
      rw [hnil] at hmem
      cases hmem
    · rfl
  case success => exact judged_eq_ok_iff.mp
  case reliable_iff =>
    rw [judged_eq_ok_iff]
    constructor
    · intro hreliable
      refine ⟨fun herrors => (hreliable (.inl herrors)).items, fun herrors => ?_⟩
      by_contra hnone
      have hflag := (hreliable (.inr (not_exists.mp hnone))).flag
      exact absurd (hflag.symm.trans herrors) Bool.false_ne_true
    · rintro ⟨hunflagged, hflagged⟩ hsuccess
      cases herrors : reply.errors with
      | false => exact ⟨herrors, hunflagged herrors⟩
      | true =>
          -- a flag that is up names what failed, and then the write does not succeed
          obtain ⟨i, hi⟩ := hflagged herrors
          rcases hsuccess with hflag | hnone
          · exact absurd (hflag.symm.trans herrors) Bool.false_ne_true
          · exact absurd hi (hnone i)

/-- A call that writes is served by one write of its items. -/
theorem failure_of_written {τ κ : Type} {settings : Settings} {transport : Transport σ}
    {r : Reconciler τ κ} {p : Part τ σ}
    (hindex : r.index = (Client.backend settings transport).within p) {c : Call κ} (hc : written c ≠ []) (t : τ) :
    c.isWork = true ∧ (r.entry c t).failure
      = failure? ((Client.writeBulk settings transport (written c)).exec (p.get t)).1 := by
  cases c with
  | upsert docs =>
      rw [entry, hindex]
      exact ⟨rfl, rfl⟩
  | tombstone ids =>
      rw [entry, hindex]
      exact ⟨rfl, rfl⟩
  | _ => exact absurd rfl hc

/-- **Rejected writes.**  A write goes by its reply, and a success can be relied on exactly where the flag
and the items agree.  Where the reply says that something failed and of what, a tick that made this write
fails, and commits nothing. -/
theorem rejected_write {settings : Settings} {transport : Transport σ} {items : List Item} {s : σ}
    {reply : BulkReply} (hitems : items ≠ [])
    (hreply : Client.replied settings transport items s = some reply) :
    (∀ docs, written (κ := Unit) (.upsert docs) = items →
        GoesBy reply (((Client.backend settings transport).upsert docs).exec s).1) ∧
      (∀ ids, written (κ := Unit) (.tombstone ids) = items →
        GoesBy reply (((Client.backend settings transport).tombstone ids).exec s).1) ∧
      ∀ {τ κ : Type} (p : Part τ σ) (queue : TaskQueue τ κ) (store : PrimaryStore τ)
        (enrich : Transform) (registry : Registry) (limit : Int) (t : τ),
        let index := (Client.backend settings transport).within p
        let r : Reconciler τ κ := ⟨queue, store, index, enrich, registry, limit⟩
        ∀ e ∈ r.journal t, written e.call = items → p.get e.before = s →
          reply.errors = true → (∃ i, reply.Rejects i) →
            (∀ e' ∈ r.journal t, ∀ c, e'.call ≠ .commit c) ∧ ∃ error, (r.tick.exec t).1 = .error error := by
  have houtcome := Client.writeBulk_of_replied hitems hreply
  refine ⟨?_, ?_, ?_⟩
  · rintro docs rfl
    exact houtcome ▸ goesBy_judged reply
  · rintro ids rfl
    exact houtcome ▸ goesBy_judged reply
  · intro τ κ p queue store enrich registry limit t index r e he hwritten hbefore herrors hrejects
    obtain ⟨-, hchain, hcourse⟩ := journal_spec r t
    obtain ⟨failed, hfailed, -⟩ := (goesBy_judged reply).refused herrors hrejects
    have hserved := failure_of_written (r := r) (p := p) rfl (hwritten ▸ hitems) e.before
    rw [hwritten, hbefore, houtcome, hfailed, ← hchain.eq_entry he] at hserved
    refine hcourse.uncommitted he hserved.1 ?_
    rw [hserved.2]
    nofun

/-! ### Replies to one write -/

/-- An index on this machine, asked once. -/
def nearby : Settings := ⟨"http://localhost:9200", "annotation", none, none, .never⟩

/-- A document without a body. -/
def bare : Document := ⟨⟨.ofNat 1⟩, ⟨0, 0⟩, []⟩

/-- A reply to a search that finds nothing. -/
def nothingFound : Exchange :=
  .reply 200 (Text.Utf8.encode "\x7b\"hits\":\x7b\"hits\":[]\x7d\x7d") true

/-- The text of a reply with one item, which was rejected. -/
def rejection (flag id : String) : String :=
  "\x7b\"errors\":" ++ flag ++ ",\"items\":[\x7b\"index\":\x7b\"_id\":\"" ++ id ++
    "\",\"status\":400\x7d\x7d]\x7d"

/-- A reconciler that works with such an index and enriches nothing. -/
def plain : Reconciler (World Script) Memory.Claim :=
  (⟨Client.backend nearby Script.transport, fun _ s => (.done, s), fun _ d => d, .standard, 10⟩ :
    Setup Script).reconciler

/-- A task for the entity of the document, which the index does not hold, and the text by which the index
will reply to the write. -/
def awaiting (text : String) : World Script :=
  { World.start ⟨0, 0⟩
      (.ofReplies true [nothingFound, .reply 200 (Text.Utf8.encode text) true]) with
    queue := ((Memory.Queue.empty ⟨0, 0⟩).enqueue ⟨.ofNat 11⟩ bare.id syncEntityTag none).advance moment
    store := Memory.Store.empty.putLive bare.id bare.updated .null }

/-- Under a flag the rejection fails the tick. -/
theorem rejected_write_flagged :
    let w := awaiting (rejection "true" "00000000-0000-0000-0000-000000000001")
    ∃ e ∈ plain.journal w, ∃ reply,
      written e.call ≠ [] ∧
      Client.replied nearby Script.transport (written e.call) e.before.index = some reply ∧
      (reply.errors = true ∧ ∃ i, reply.Rejects i) ∧
      GoesBy reply (((Client.backend nearby Script.transport).upsert [bare]).exec e.before.index).1 ∧
      (∀ e' ∈ plain.journal w, ∀ c, e'.call ≠ .commit c) ∧
      ∃ error, (plain.tick.exec w).1 = .error error := by
  intro w
  have hentry : (plain.journal w)[4]?.map (fun e => (written e.call,
      Client.replied nearby Script.transport (written e.call) e.before.index))
      = some (written (κ := Unit) (.upsert [bare]), some ⟨true, [[⟨bare.id.text, 400, none⟩]]⟩) := by
    decide +kernel
  have hrejects : (⟨true, [[⟨bare.id.text, 400, none⟩]]⟩ : BulkReply).Rejects bare.id :=
    ⟨_, List.mem_singleton_self _, .inr (by decide), by decide +kernel⟩
  -- from here on it does not matter what the world is
  clear_value w
  obtain ⟨e, he, heq⟩ := Option.map_eq_some_iff.mp hentry
  obtain ⟨hwritten, hreply⟩ := Prod.mk.inj heq
  have hitems : written e.call ≠ [] := by
    rw [hwritten]
    exact List.cons_ne_nil _ _
  obtain ⟨hupsert, -, htick⟩ := rejected_write hitems hreply
  have huncommitted := htick World.indexPart plain.queue plain.store plain.enrich plain.registry
    plain.limit w e (List.mem_of_getElem? he) rfl rfl rfl ⟨_, hrejects⟩
  exact ⟨e, List.mem_of_getElem? he, _, hitems, hreply, ⟨rfl, _, hrejects⟩,
    hupsert [bare] hwritten.symm, huncommitted⟩

/-- A reply that says that something failed, by which the write of the document is a success all the same:
the tick commits, and the task is gone. -/
structure Unheeded (text : String) (reply : BulkReply) : Prop where
  reported : ¬reply.Clear
  write : ∃ e ∈ plain.journal (awaiting text), written e.call = [(bare.id, bare.source)] ∧
    Client.replied nearby Script.transport (written e.call) e.before.index = some reply ∧
    e.failure = none
  waiting : (awaiting text).queue.tasks.length = 1
  gone : (plain.tick.exec (awaiting text)).2.queue.tasks = []

/-- One run over services that keep a journal shows it. -/
theorem unheeded_of_run {text : String} {reply : BulkReply} (hreported : ¬reply.Clear)
    (hrun : let run := (plain.logged.tick.exec ⟨awaiting text, []⟩).2
      (run.entries[4]?.map (fun e => (written e.call,
        Client.replied nearby Script.transport (written e.call) e.before.index, e.failure)),
          run.state.queue.tasks) = (some ([(bare.id, bare.source)], some reply, none), [])) :
    Unheeded text reply := by
  dsimp only at hrun
  rw [(journal_spec plain (awaiting text)).1] at hrun
  obtain ⟨hentry, hgone⟩ := Prod.mk.inj hrun
  obtain ⟨e, he, heq⟩ := Option.map_eq_some_iff.mp hentry
  obtain ⟨hwritten, heq⟩ := Prod.mk.inj heq
  obtain ⟨hreply, hfailure⟩ := Prod.mk.inj heq
  exact ⟨hreported, ⟨e, List.mem_of_getElem? he, hwritten, hreply, hfailure⟩, rfl, hgone⟩

/-- **Rejections that go unheeded.**  The flag of the first reply says that nothing failed, and its item
that the document was rejected.  The others say that something failed; but the one names what is no
identifier, and the other names nothing. -/
theorem unheeded_rejections :
    Unheeded (rejection "false" "00000000-0000-0000-0000-000000000001")
        ⟨false, [[⟨"00000000-0000-0000-0000-000000000001", 400, none⟩]]⟩ ∧
      Unheeded (rejection "true" "1") ⟨true, [[⟨"1", 400, none⟩]]⟩ ∧
      Unheeded "\x7b\"errors\":true\x7d" ⟨true, []⟩ := by
  refine ⟨unheeded_of_run ?_ ?_, unheeded_of_run ?_ ?_, unheeded_of_run ?_ ?_⟩
  · exact fun hclear => hclear.items _ (List.mem_singleton_self _) (.inr (by decide))
  · decide +kernel
  · exact fun hclear => Bool.false_ne_true hclear.flag.symm
  · decide +kernel
  · exact fun hclear => Bool.false_ne_true hclear.flag.symm
  · decide +kernel

end Outbox.Search
