import Outbox.Proofs.Reconciler.Outcome
import Outbox.Proofs.Search.Agreement
import Outbox.Proofs.Search.Notes
import Outbox.Proofs.Search.Rejection
import Outbox.Proofs.Simulation.Tick

/-!
# Entities that a tick passes over

The task of a live entity goes in one of two ways: its document is sent to the index, or the index
showed the version of the entity.  Whatever a server answers, there is no third.

* `work_covers` — what was noted, for every entity that a claimed task names;
* `skipped_shows_version` — the same for a tick;
* `flagged_skipped` — the flag of a hit does not count.
-/

namespace Outbox.Search

open Outbox.Memory Outbox.Reconciler Outbox.Simulation Outbox.Time

/-! ### What a reply shows -/

/-- The last hit for an identifier has a version, and the others for it do not count. -/
def Shows (hits : List Hit) (i : EntityId) (v : Timestamp) : Prop :=
  ∃ earlier hit later, hits = earlier ++ hit :: later ∧ EntityId.ofText? hit.id = some i ∧
    (hit.updated.bind fun s => readVersion? s.toList) = some v ∧
    ∀ h ∈ later, EntityId.ofText? h.id ≠ some i

/-- **The later hit counts.** -/
theorem shows_of_statuses {hits : List Hit} {i : EntityId} {v : Timestamp} {st : IndexStatus}
    (h : Table.find? (Hit.statuses hits) i = some st) (hv : st.updated = some v) :
    Shows hits i v := by
  rw [Hit.statuses, Table.ofList, Table.find?_foldl_insert, List.append_nil] at h
  induction hits using List.reverseRecOn with
  | nil => cases h
  | append_singleton hits hit ih =>
      rw [List.filterMap_append, List.reverse_append, Table.find?_append] at h
      cases hid : EntityId.ofText? hit.id with
      | none =>
          have hskip : [hit].filterMap (fun h => (EntityId.ofText? h.id).map fun e => (e, h.status))
              = [] := by
            simp [hid]
          rw [hskip] at h
          obtain ⟨earlier, hit', later, rfl, hid', hversion, hlater⟩ := ih h
          refine ⟨earlier, hit', later ++ [hit], by simp, hid', hversion, ?_⟩
          intro h' hh'
          cases List.mem_append.mp hh' with
          | inl hmem => exact hlater h' hmem
          | inr hmem =>
              rw [List.mem_singleton.mp hmem, hid]
              exact (Option.some_ne_none i).symm
      | some j =>
          have hone : [hit].filterMap (fun h => (EntityId.ofText? h.id).map fun e => (e, h.status))
              = [(j, hit.status)] := by
            simp [hid]
          rw [hone, List.reverse_singleton, Table.find?_cons] at h
          by_cases hj : j = i
          · rw [if_pos hj, Option.some_or, Option.some.injEq] at h
            refine ⟨hits, hit, [], rfl, hj ▸ hid, ?_, by simp⟩
            rw [← hv, ← h]
            rfl
          · rw [if_neg hj, Table.find?_nil, Option.none_or] at h
            obtain ⟨earlier, hit', later, rfl, hid', hversion, hlater⟩ := ih h
            refine ⟨earlier, hit', later ++ [hit], by simp, hid', hversion, ?_⟩
            intro h' hh'
            cases List.mem_append.mp hh' with
            | inl hmem => exact hlater h' hmem
            | inr hmem =>
                rw [List.mem_singleton.mp hmem, hid]
                exact fun heq => hj (Option.some.inj heq)

/-! ### The work on a claim -/

/-- Why an entity may be passed over, by what was noted: a write for it was sent, or the reply to a
search for it showed its version. -/
def Covered (noted : Notes) (i : EntityId) (v : Timestamp) : Prop :=
  (∃ n ∈ noted, ∃ ws, n.1.contentType = "application/x-ndjson" ∧ writes? n.1.body = some ws ∧
      i.text ∈ ws.map Write.id) ∨
    ∃ n ∈ noted, ∃ ids hits, queried? n.1.body = some ids ∧ i.text ∈ ids ∧
      n.2.hits? = some hits ∧ Shows hits i v

variable {σ : Type} {settings : Settings} {t : Transport σ} {s : Setup (σ × Notes)}

/-- A write request names the identifiers of its items. -/
theorem covered_of_bulk {noted : Notes} {items : List Item} {url : Url} {exchange : Exchange}
    (h : (.bulk settings items url, exchange) ∈ noted) {i : EntityId}
    (hi : i ∈ items.map Prod.fst) (v : Timestamp) : Covered noted i v := by
  have hbody : writes? (Request.bulk settings items url).body
      = some ((addressed settings.writeTargets items).map Write.ofItem) :=
    writes?_bulkBody settings.writeTargets items
  have hwritten : i.text ∈ ((addressed settings.writeTargets items).map Write.ofItem).map Write.id :=
    (mem_ids_addressed (List.ne_nil_of_mem (index_mem_writeTargets settings))).mpr hi
  exact .inl ⟨_, h, _, rfl, hbody, hwritten⟩

/-- A plan that is written sends a write for each of its documents. -/
theorem write_covers {p : Indexer.Plan} {x x' : σ × Notes}
    (h : (Indexer.write (Client.backend settings t.noting) p).exec x = (.ok (), x')) :
    ∃ noted, x'.2 = x.2 ++ noted ∧ ∀ d ∈ p.documents, ∀ v, Covered noted d.id v := by
  have htombs : ∀ x₁ : σ × Notes, (if !p.tombstoned.isEmpty then
      (Client.backend settings t.noting).tombstone p.tombstoned else pure ()).exec x₁ = (.ok (), x') →
        ∃ more, x'.2 = x₁.2 ++ more := by
    intro x₁ h
    split at h
    · rename_i hsome
      obtain ⟨url, earlier, exchange, hnotes⟩ :=
        Client.exec_writeBulk_noting (by simpa using hsome) h
      exact ⟨_, hnotes⟩
    · cases h
      exact ⟨[], (List.append_nil _).symm⟩
  rw [Indexer.write] at h
  by_cases hdocs : p.documents = []
  · rw [hdocs] at h ⊢
    obtain ⟨more, hmore⟩ := htombs x h
    exact ⟨more, hmore, by simp⟩
  · rw [List.isEmpty_eq_false_iff.mpr hdocs] at h
    replace h : (_ >>= _ : Action (σ × Notes) Unit).exec x = _ := h
    rw [Action.exec_bind] at h
    split at h
    · rename_i u x₁ hupsert
      obtain ⟨url, earlier, exchange, hnotes⟩ :=
        Client.exec_writeBulk_noting (by simpa using hdocs) hupsert
      obtain ⟨more, hmore⟩ := htombs x₁ h
      refine ⟨_, by rw [hmore, hnotes, List.append_assoc], fun d hd v => ?_⟩
      have hmem : d.id ∈ (p.documents.map fun d : Document => (d.id, d.source)).map Prod.fst := by
        rw [List.map_map]
        exact List.mem_map_of_mem hd
      exact covered_of_bulk (List.mem_append_left _ (List.mem_append_right _
        (List.mem_singleton_self _))) hmem v
    · cases h

/-- What was judged to need indexing is sent. -/
theorem update_covers (hindex : s.index = Client.backend settings t.noting) {tasks : List Task}
    {st : Store} {held : Table EntityId IndexStatus} {x x' : σ × Notes} {report : Report}
    {i : EntityId} (hnamed : ∃ task ∈ tasks, Names s.registry task i) {e : Entity}
    (hlive : st.live? i = some e) (h : (s.update tasks st held).exec x = (.ok report, x')) :
    ∃ noted, x'.2 = x.2 ++ noted ∧
      (classify (st.statuses (referenced (references s.registry tasks))) held i = .needsIndex →
        ∀ v, Covered noted i v) := by
  rw [Setup.update] at h
  split at h
  · rename_i hnone
    cases h
    refine ⟨[], (List.append_nil _).symm, fun hneeds => ?_⟩
    have hstale := mem_stale.mpr ⟨hnamed, hneeds⟩
    rw [hnone] at hstale
    cases hstale
  · rw [hindex, Action.exec_bind] at h
    split at h
    · rename_i u x₁ hwrite
      cases h
      obtain ⟨noted, hnotes, hcovered⟩ := write_covers hwrite
      refine ⟨noted, hnotes, fun hneeds v => ?_⟩
      have hstale := mem_stale.mpr ⟨hnamed, hneeds⟩
      have hdoc := hcovered (Indexer.document s.enrich e)
        (Indexer.mem_documents.mpr ⟨i, mem_distinct.mpr hstale, e, hlive, rfl⟩) v
      rwa [Indexer.document_id, Store.id_of_live? hlive] at hdoc
    · cases h

/-- What was noted earlier covers as well. -/
theorem Covered.mono {noted noted' : Notes} {i : EntityId} {v : Timestamp} (h : Covered noted i v)
    (hsub : noted ⊆ noted') : Covered noted' i v := by
  cases h with
  | inl h =>
      obtain ⟨n, hn, hsent⟩ := h
      exact .inl ⟨n, hsub hn, hsent⟩
  | inr h =>
      obtain ⟨n, hn, hshown⟩ := h
      exact .inr ⟨n, hsub hn, hshown⟩

/-- **The work on a claim.**  Every live entity that a task names is covered. -/
theorem work_covers (hindex : s.index = Client.backend settings t.noting) {tasks : List Task}
    {st : Store} {x x' : σ × Notes} {report : Report} {i : EntityId}
    (hnamed : ∃ task ∈ tasks, Names s.registry task i) {e : Entity} (hlive : st.live? i = some e)
    (h : (s.work tasks st).exec x = (.ok report, x')) :
    ∃ noted, x'.2 = x.2 ++ noted ∧ Covered noted i e.updated := by
  have hi : i ∈ referenced (references s.registry tasks) := mem_referenced.mpr hnamed
  rw [Setup.work, hindex, Action.exec_bind] at h
  split at h
  · rename_i held x₁ hstatuses
    obtain ⟨url, earlier, exchange, hits, hnotes, hhits, rfl⟩ :=
      Client.exec_statuses_noting (List.ne_nil_of_mem hi) hstatuses
    obtain ⟨noted, hmore, hcovered⟩ := update_covers hindex hnamed hlive h
    refine ⟨_, by rw [hmore, hnotes, List.append_assoc], ?_⟩
    -- the entity is judged by the last hit for it
    have hstatus : e.status = ⟨e.updated, false⟩ := by
      rw [Entity.status, (Store.live?_eq_some.mp hlive).2]
    have hjudged : classify (st.statuses (referenced (references s.registry tasks)))
        (Hit.statuses hits) i
          = compareStatus (some ⟨e.updated, false⟩) (Table.find? (Hit.statuses hits) i) := by
      rw [classify, Store.find?_statuses, if_pos hi, (Store.live?_eq_some.mp hlive).1,
        Option.map_some, hstatus]
    cases hfound : Table.find? (Hit.statuses hits) i with
    | none =>
        rw [hfound] at hjudged
        exact (hcovered hjudged e.updated).mono (List.subset_append_right _ _)
    | some st' =>
        rw [hfound] at hjudged
        by_cases hversion : st'.updated = some e.updated
        · have hquery : queried? (Request.search settings
              (referenced (references s.registry tasks)) url).body
                = some ((referenced (references s.registry tasks)).map EntityId.text) :=
            queried?_statusQuery _
          exact .inr ⟨_, List.mem_append_left _ (List.mem_append_right _
            (List.mem_singleton_self _)), _, hits, hquery, List.mem_map_of_mem hi, hhits,
              shows_of_statuses hfound hversion⟩
        · have hneeds := hjudged.trans (if_neg hversion)
          exact (hcovered hneeds e.updated).mono (List.subset_append_right _ _)
  · cases h

/-! ### A tick -/

/-- **What is passed over was shown.**  After a tick that succeeds the tasks it claimed are gone, and
for each live entity that they name a write was sent, or the reply to a search had a hit for it with
exactly its version. -/
theorem skipped_shows_version {w w' : World (σ × Notes)} {report : Report}
    (hindex : s.index = Client.backend settings t.noting)
    (h : s.reconciler.tick.exec w = (.ok report, w')) {task : Task}
    (htask : task ∈ (w.queue.claimDue s.limit).1.tasks) {i : EntityId}
    (hnames : Names s.registry task i) {e : Entity} (hlive : w.store.live? i = some e) :
    task ∉ w'.queue.tasks ∧
      ∃ noted, w'.index.2 = w.index.2 ++ noted ∧ Covered noted i e.updated := by
  rw [exec_tick_work, if_neg (List.ne_nil_of_mem htask)] at h
  split at h
  · cases h
  · split at h
    · rename_i report' x hwork
      cases h
      refine ⟨fun hmem => ?_, work_covers hindex ⟨task, htask, hnames⟩ hlive hwork⟩
      have hqueued : task ∈ (settled s.registry s.limit w.queue).tasks := hmem
      rw [settled_eq] at hqueued
      exact of_decide_eq_true (List.mem_filter.mp hqueued).2 (List.mem_map_of_mem htask)
    · cases h

/-! ### A flag -/

/-- A reply with one hit, in the version of the document and with a flag. -/
def shown (flag : String) : Exchange :=
  .reply 200
    (Text.Utf8.encode
      ("\x7b\"hits\":\x7b\"hits\":[\x7b\"_id\":\"00000000-0000-0000-0000-000000000001\"," ++
        "\"_source\":\x7b\"updated\":\"1970-01-01T00:00:00Z\",\"deleted\":" ++ flag ++
          "\x7d\x7d]\x7d\x7d"))
    true

/-- A simulation on an index that is reached by a script, with notes. -/
def noted : Setup (Script × Notes) :=
  ⟨Client.backend nearby Script.transport.noting, fun _ x => (.done, x), .unchanged, .standard, 10⟩

/-- The entity of the document, as the store has it. -/
def bareEntity : Entity := ⟨bare.id, bare.updated, false, []⟩

/-- A task for it, where the index shows its version under a flag. -/
def showing (flag : String) : World (Script × Notes) :=
  { World.start ⟨0, 0⟩ (.ofReplies true [shown flag], []) with
    queue :=
      ((Memory.Queue.empty ⟨0, 0⟩).enqueue ⟨.ofNat 11⟩ bare.id syncEntityTag none).advance moment
    store := Memory.Store.empty.put bareEntity }

/-- The task. -/
def bareTask : Task :=
  ⟨⟨.ofNat 11⟩, ⟨0, 0⟩, ⟨0, 0⟩, syncEntityTag, (Payload.syncEntity bare.id).toJson⟩

theorem skipped_shows_version_live :
    noted.index = Client.backend nearby Script.transport.noting ∧
      (noted.reconciler.tick.exec (showing "false")).1 = .ok ⟨1, 0, 1, 0, 0, 0⟩ ∧
      bareTask ∈ ((showing "false").queue.claimDue noted.limit).1.tasks ∧
      Names noted.registry bareTask bare.id ∧
      (showing "false").store.live? bare.id = some bareEntity ∧
      bareTask ∉ (noted.reconciler.tick.exec (showing "false")).2.queue.tasks ∧
      ∃ sent, (noted.reconciler.tick.exec (showing "false")).2.index.2
          = (showing "false").index.2 ++ sent ∧ Covered sent bare.id bare.updated := by
  have htick : (noted.reconciler.tick.exec (showing "false")).1 = .ok ⟨1, 0, 1, 0, 0, 0⟩ := by
    decide +kernel
  have htask : bareTask ∈ ((showing "false").queue.claimDue noted.limit).1.tasks := by
    decide +kernel
  have hnames : Names noted.registry bareTask bare.id := by decide +kernel
  have hlive : (showing "false").store.live? bare.id = some bareEntity := by decide +kernel
  exact ⟨rfl, htick, htask, hnames, hlive,
    skipped_shows_version rfl (Prod.ext htick rfl) htask hnames hlive⟩

/-- **The flag of a hit does not count.**  The index shows the version of a live entity, flagged as
deleted: the task is gone after the tick, and nothing was written. -/
theorem flagged_skipped :
    (noted.reconciler.tick.exec (showing "true")).1 = .ok ⟨1, 0, 1, 0, 0, 0⟩ ∧
      (showing "true").queue.tasks = [bareTask] ∧
      (noted.reconciler.tick.exec (showing "true")).2.queue.tasks = [] ∧
      Names noted.registry bareTask bare.id ∧
      (showing "true").store.live? bare.id = some bareEntity ∧
      (noted.reconciler.tick.exec (showing "true")).2.index.2.map
          (fun n => (n.1.contentType, n.2.hits?))
        = [("application/json", some [⟨bare.id.text, some "1970-01-01T00:00:00Z", true⟩])] := by
  decide +kernel

end Outbox.Search
