import Outbox.Disposition
import Outbox.Proofs.Memory.Index
import Outbox.Proofs.Search.Server
import Outbox.Proofs.Time.Version

/-!
# The index behind a connection and the index in memory

A client of a server that keeps what is written, and the index in memory, give the same answers to the
same calls.  What carries this from one call to the next is that the server holds, in every index that
is written to, the sources of what is held in memory (`Mirrors`): a write changes both in the same
way, and a search reads from the sources what is looked up in memory.

* `Mirrors.write`, `Mirrors.search` — one call on both sides;
* `run_agrees` — any calls in turn;
* `indices_agree` — from empty indices on, with the same identifiers rejected.
-/

namespace Outbox.Search

open Outbox.Json Outbox.Memory Outbox.Time

/-! ### Calls -/

/-- A call of an index. -/
inductive IndexCall
  | upsert (docs : List Document)
  | tombstone (ids : List EntityId)
  | statuses (ids : List EntityId)

namespace IndexCall

/-- The documents that a call writes. -/
def documents : IndexCall → List Document
  | .upsert docs => docs
  | _ => []

/-- Makes a call; a write has no projections to give. -/
def perform {σ : Type} (index : SearchIndex σ) : IndexCall → Action σ (Table EntityId IndexStatus)
  | .upsert docs => do
    index.upsert docs
    pure []
  | .tombstone ids => do
    index.tombstone ids
    pure []
  | .statuses ids => index.statuses ids

/-- Makes calls in turn, whatever comes of each: what came of them, and the state at the end. -/
def run {σ : Type} (index : SearchIndex σ) :
    List IndexCall → σ → List (Except Error (Table EntityId IndexStatus)) × σ
  | [], s => ([], s)
  | c :: calls, s =>
    let (outcome, s) := (c.perform index).exec s
    let (outcomes, s) := run index calls s
    (outcome :: outcomes, s)

end IndexCall

/-- Two outcomes say the same: projections by which every entity compares alike, or a failure with
the same identifiers. -/
inductive Agree : (a b : Except Error (Table EntityId IndexStatus)) → Prop
  | projections {t t' : Table EntityId IndexStatus} (find : ∀ i, Table.find? t i = Table.find? t' i)
      (classify : ∀ primary i, classify primary t i = classify primary t' i) : Agree (.ok t) (.ok t')
  | rejected {failed failed' : List EntityId} (mem : ∀ i, i ∈ failed ↔ i ∈ failed') :
      Agree (.error (.partialBatchFailure failed)) (.error (.partialBatchFailure failed'))

theorem agree_of_find? {t t' : Table EntityId IndexStatus}
    (h : ∀ i, Table.find? t i = Table.find? t' i) : Agree (.ok t) (.ok t') :=
  .projections h fun primary i => by rw [classify, classify, h]

/-- Writes of which the same was rejected. -/
theorem agree_of_rejected {reply : BulkReply} {x : Index} {ids : List EntityId}
    (h : ∀ i, i ∈ reply.failedIds ↔ i ∈ x.refused ids) :
    Agree ((Client.judged reply).map fun _ => []) ((x.verdict ids).map fun _ => []) := by
  rw [Client.judged, Index.verdict]
  generalize reply.failedIds = failed at h
  generalize x.refused ids = refused at h
  cases failed with
  | nil =>
      cases refused with
      | nil => exact agree_of_find? fun _ => rfl
      | cons i refused => exact absurd ((h i).mpr List.mem_cons_self) List.not_mem_nil
  | cons i failed =>
      cases refused with
      | nil => exact absurd ((h i).mp List.mem_cons_self) List.not_mem_nil
      | cons j refused => exact .rejected h

/-! ### What is held -/

/-- What is written for what is held in memory. -/
def sourceOf : Stored → Json
  | .live d => d.source
  | .tombstone => tombstoneSource

/-- The sources of an index in memory, by the text of the identifier. -/
def sources (x : Index) (id : String) : Option Tree :=
  ((EntityId.ofText? id).filter fun i => i.text = id).bind fun i =>
    (x.stored? i).map fun v => tree (sourceOf v)

theorem sources_text (x : Index) (i : EntityId) :
    sources x i.text = (x.stored? i).map fun v => tree (sourceOf v) := by
  rw [sources, EntityId.ofText?_text, Option.filter_some, if_pos (decide_eq_true rfl),
    Option.bind_some]

/-- A version that a marker shows exactly. -/
structure Exact (v : Timestamp) : Prop where
  valid : v.Valid
  micros : v.nanos % 1000 = 0
  years : v.InFourDigits

instance (v : Timestamp) : Decidable (Exact v) :=
  decidable_of_iff (v.Valid ∧ v.nanos % 1000 = 0 ∧ v.InFourDigits)
    ⟨fun h => ⟨h.1, h.2.1, h.2.2⟩, fun h => ⟨h.valid, h.micros, h.years⟩⟩

theorem Exact.readVersion? {v : Timestamp} (h : Exact v) : readVersion? v.version = some v :=
  (readVersion?_version_eq_some_iff h.valid).mpr ⟨h.micros, h.years⟩

theorem updated_source (d : Document) :
    (tree d.source).member? "updated" = some (.string (some (String.ofList d.updated.version))) := by
  rw [Document.source, Json.member?_tree_object]
  simp [Table.find?_insert, tree]

theorem deleted_source (d : Document) :
    (tree d.source).member? "deleted" = some (.bool false) := by
  rw [Document.source, Json.member?_tree_object]
  simp [Table.find?_insert, tree]

theorem updated_tombstoneSource : (tree tombstoneSource).member? "updated" = none := by
  rw [tombstoneSource, Json.member?_tree_object]
  simp [Table.find?_cons]

theorem deleted_tombstoneSource : (tree tombstoneSource).member? "deleted" = some (.bool true) := by
  rw [tombstoneSource, Json.member?_tree_object]
  simp [Table.find?_cons, tree]

theorem typed_sourceOf (v : Stored) : Typed (tree (sourceOf v)) := by
  cases v with
  | live d =>
      refine ⟨fun t ht => ?_, fun t ht => ?_⟩
      · exact ⟨_, Option.some.inj (ht.symm.trans (updated_source d))⟩
      · exact ⟨_, Option.some.inj (ht.symm.trans (deleted_source d))⟩
  | tombstone =>
      refine ⟨fun t ht => ?_, fun t ht => ?_⟩
      · exact absurd (ht.symm.trans updated_tombstoneSource) nofun
      · exact ⟨_, Option.some.inj (ht.symm.trans deleted_tombstoneSource)⟩

/-- What is read of a document: its marker as it reads back, and no flag. -/
theorem statusOf_source (d : Document) :
    statusOf (tree d.source) = ⟨readVersion? d.updated.version, false⟩ := by
  have htext : text? (.string (some (String.ofList d.updated.version)))
      = some (String.ofList d.updated.version) := rfl
  rw [statusOf, updated_source, deleted_source, Option.bind_some, Option.bind_some, htext,
    Option.bind_some, String.toList_ofList]
  rfl

/-- **What is shown of a source** is the projection of what was written. -/
theorem statusOf_sourceOf {v : Stored} (h : ∀ d, v = .live d → Exact d.updated) :
    statusOf (tree (sourceOf v)) = v.status := by
  cases v with
  | live d =>
      rw [sourceOf, statusOf_source, (h d rfl).readVersion?]
      rfl
  | tombstone =>
      rw [sourceOf, statusOf, updated_tombstoneSource, deleted_tombstoneSource]
      rfl

/-! ### Writing on both sides -/

namespace Holdings

theorem apply_cons (r : String → Bool) (w : Write) (ws : List Write) (h : Holdings) :
    h.apply r (w :: ws) = (if r w.id then h else h.put w).apply r ws := by
  rw [apply, List.filter_cons]
  cases r w.id with
  | true => rfl
  | false => rfl

theorem apply_append (r : String → Bool) (ws ws' : List Write) (h : Holdings) :
    h.apply r (ws ++ ws') = (h.apply r ws).apply r ws' := by
  rw [apply, List.filter_append, List.foldl_append]
  rfl

/-- What is written to other indices does not count. -/
theorem apply_of_ne {name : String} {ws : List Write} (hne : ∀ w ∈ ws, w.index ≠ name)
    (r : String → Bool) (h : Holdings) : h.apply r ws name = h name := by
  induction ws generalizing h with
  | nil => rfl
  | cons w ws ih =>
      rw [apply_cons, ih fun w' hw' => hne w' (List.mem_cons_of_mem w hw')]
      split
      · rfl
      · funext id
        exact if_neg fun hw => hne w List.mem_cons_self hw.1.symm

end Holdings

theorem store_cons (x : Index) (e : EntityId × Stored) (entries : List (EntityId × Stored)) :
    x.store (e :: entries) = (if e.1 ∈ x.rejected then x
      else { x with documents := Table.insert x.documents e.1 e.2 }).store entries := by
  rw [Index.store, List.filter_cons]
  by_cases h : e.1 ∈ x.rejected
  · rw [if_neg (by simpa using h), if_pos h]
    rfl
  · rw [if_pos (by simpa using h), if_neg h]
    rfl

theorem sources_insert (x : Index) (i : EntityId) (v : Stored) :
    sources { x with documents := Table.insert x.documents i v }
      = fun id => if id = i.text then some (tree (sourceOf v)) else sources x id := by
  funext id
  by_cases hid : id = i.text
  · subst hid
    rw [if_pos rfl, sources_text, Index.stored?, Table.find?_insert, if_pos rfl]
    rfl
  · rw [if_neg hid, sources, sources]
    refine Option.bind_congr fun j hj => ?_
    obtain ⟨-, htext⟩ := Option.filter_eq_some_iff.mp hj
    have hne : i ≠ j := fun h => hid (h ▸ (of_decide_eq_true htext).symm)
    rw [Index.stored?, Table.find?_insert, if_neg hne]
    rfl

/-- The items of a batch. -/
def itemsOf (entries : List (EntityId × Stored)) : List Item :=
  entries.map fun e => (e.1, sourceOf e.2)

/-- **One index.**  The server stores what memory stores. -/
theorem apply_itemsOf (name : String) (entries : List (EntityId × Stored)) {h : Holdings} {x : Index}
    (hname : h name = sources x) :
    h.apply (rejects x.rejected) ((itemsOf entries).map fun item => Write.ofItem (name, item)) name
      = sources (x.store entries) := by
  induction entries generalizing h x with
  | nil => exact hname
  | cons e entries ih =>
      have hid : (Write.ofItem (name, (e.1, sourceOf e.2))).id = e.1.text := rfl
      rw [itemsOf, List.map_cons, List.map_cons, Holdings.apply_cons, store_cons, hid]
      by_cases hrejected : e.1 ∈ x.rejected
      · rw [if_pos (rejects_text.mpr hrejected), if_pos hrejected]
        exact ih hname
      · rw [if_neg (mt rejects_text.mp hrejected), if_neg hrejected]
        refine ih (x := { x with documents := Table.insert x.documents e.1 e.2 }) ?_
        rw [sources_insert, ← hname]
        funext id
        show (if name = name ∧ id = e.1.text then _ else _) = _
        rw [if_congr (and_iff_right rfl) rfl rfl]
        rfl

/-- **Every index that is written to** gets the same. -/
theorem apply_addressed {targets : List String} (hnodup : targets.Nodup)
    (entries : List (EntityId × Stored)) {h : Holdings} {x : Index}
    (hmirror : ∀ name ∈ targets, h name = sources x) :
    ∀ name ∈ targets, h.apply (rejects x.rejected)
      ((addressed targets (itemsOf entries)).map Write.ofItem) name = sources (x.store entries) := by
  induction targets generalizing h with
  | nil => exact fun _ => nofun
  | cons target targets ih =>
      obtain ⟨hfresh, hrest⟩ := List.nodup_cons.mp hnodup
      have hsplit : (addressed (target :: targets) (itemsOf entries)).map Write.ofItem
          = (itemsOf entries).map (fun item => Write.ofItem (target, item))
            ++ (addressed targets (itemsOf entries)).map Write.ofItem := by
        rw [addressed, List.flatMap_cons, List.map_append, List.map_map]
        rfl
      have hfirst : ∀ w ∈ (itemsOf entries).map (fun item => Write.ofItem (target, item)),
          w.index = target := by
        rintro w hw
        obtain ⟨item, -, rfl⟩ := List.mem_map.mp hw
        rfl
      have hothers : ∀ w ∈ (addressed targets (itemsOf entries)).map Write.ofItem,
          w.index ∈ targets := by
        rintro w hw
        obtain ⟨p, hp, rfl⟩ := List.mem_map.mp hw
        obtain ⟨name, hname, hp⟩ := List.mem_flatMap.mp hp
        obtain ⟨item, -, rfl⟩ := List.mem_map.mp hp
        exact hname
      intro name hname
      rw [hsplit, Holdings.apply_append]
      rcases List.mem_cons.mp hname with rfl | hname
      · have hne : ∀ w ∈ (addressed targets (itemsOf entries)).map Write.ofItem, w.index ≠ name :=
          fun w hw heq => hfresh (heq ▸ hothers w hw)
        rw [Holdings.apply_of_ne hne]
        exact apply_itemsOf name entries (hmirror name List.mem_cons_self)
      · refine ih hrest (fun name' hname' => ?_) name hname
        have hne : name' ≠ target := fun heq => hfresh (heq ▸ hname')
        rw [Holdings.apply_of_ne fun w hw heq => hne (heq.symm.trans (hfirst w hw))]
        exact hmirror name' (List.mem_cons_of_mem target hname')

/-! ### One call -/

/-- The server holds in every index that is written to what memory holds, and memory holds nothing
whose version a marker does not show. -/
structure Mirrors (settings : Settings) (rejected : List EntityId) (h : Holdings) (x : Index) :
    Prop where
  holds : ∀ name ∈ settings.writeTargets, h name = sources x
  exact : ∀ i d, x.stored? i = some (.live d) → Exact d.updated
  rejected : x.rejected = rejected
  available : x.available = true

theorem index_mem_writeTargets (settings : Settings) : settings.index ∈ settings.writeTargets := by
  rw [Settings.writeTargets]
  split
  · exact List.mem_singleton_self _
  · split
    · exact List.mem_singleton_self _
    · exact List.mem_cons_self

theorem nodup_writeTargets (settings : Settings) : settings.writeTargets.Nodup := by
  rw [Settings.writeTargets]
  split
  · exact List.pairwise_singleton _ _
  · split
    · exact List.pairwise_singleton _ _
    · rename_i hne
      simpa using Ne.symm hne

/-- What a write asks for is asked for all the identifiers of its items. -/
theorem mem_ids_addressed {targets : List String} (hne : targets ≠ []) {items : List Item}
    {i : EntityId} :
    i.text ∈ ((addressed targets items).map Write.ofItem).map Write.id ↔ i ∈ items.map Prod.fst := by
  simp only [List.map_map, List.mem_map, addressed, List.mem_flatMap, Function.comp_def]
  constructor
  · rintro ⟨p, ⟨target, -, item, hitem, rfl⟩, htext⟩
    exact ⟨item, hitem, EntityId.text_injective htext⟩
  · rintro ⟨item, hitem, rfl⟩
    obtain ⟨target, htarget⟩ := List.exists_mem_of_ne_nil targets hne
    exact ⟨(target, item), ⟨target, htarget, item, hitem, rfl⟩, rfl⟩

section

variable {σ : Type} {settings : Settings} {rejected : List EntityId} {t : Transport σ}
  {held : σ → Holdings} {s : σ} {x : Index}

theorem Mirrors.store {h : Holdings} (hmirror : Mirrors settings rejected h x)
    {entries : List (EntityId × Stored)}
    (hexact : ∀ e ∈ entries, ∀ d, e.2 = .live d → Exact d.updated) :
    Mirrors settings rejected (h.apply (rejects rejected)
      ((addressed settings.writeTargets (itemsOf entries)).map Write.ofItem)) (x.store entries) := by
  refine ⟨?_, fun i d hd => ?_, hmirror.rejected, hmirror.available⟩
  · rw [← hmirror.rejected]
    exact apply_addressed (nodup_writeTargets settings) entries hmirror.holds
  · by_cases hi : i ∈ x.rejected ∨ i ∉ entries.map Prod.fst
    · rw [Index.stored?_store_of_notMem hi] at hd
      exact hmirror.exact i d hd
    · obtain ⟨hrejected, hmem⟩ := not_or.mp hi
      obtain ⟨v, hv, hstored⟩ := Index.stored?_store_of_mem hrejected (not_not.mp hmem)
      exact hexact (i, v) hv d (Option.some.inj (hstored.symm.trans hd))

/-- **A write**, of nothing or of something. -/
theorem Stores.write (hserver : Stores settings rejected t held)
    (hbulk : Client.reachable settings Settings.bulkPath = true) (items : List Item)
    (hrejected : x.rejected = rejected) :
    Agree ((((Client.writeBulk settings t items).exec s).1).map fun _ => [])
        ((x.verdict (items.map Prod.fst)).map fun _ => []) ∧
      held ((Client.writeBulk settings t items).exec s).2 = (held s).apply (rejects rejected)
        ((addressed settings.writeTargets items).map Write.ofItem) := by
  by_cases hitems : items = []
  · subst hitems
    have hnothing : addressed settings.writeTargets [] = [] := by simp [addressed]
    rw [hnothing]
    exact ⟨agree_of_find? fun _ => rfl, rfl⟩
  · obtain ⟨url, hreaches⟩ := Client.reaches_of_reachable hbulk
    obtain ⟨status, bytes, answer, s', hexchange, hsuccess, hbytes, hanswer, hheld⟩ :=
      hserver.bulk (.bulk settings items url) s _ rfl hreaches.address rfl
        (writes?_bulkBody settings.writeTargets items)
    obtain ⟨reply, hreply, hfailed⟩ := hanswer.exists_reply
    have hread : ((some bytes : SuccessBody).bind fun bytes =>
        (Json.readBytes bytes).bind BulkReply.ofTree?) = some reply := by
      rw [Option.bind_some, hbytes, Option.bind_some, hreply]
    rw [Client.exec_writeBulk hitems
      (Client.exec_send_of_success hreaches hexchange hsuccess) hread]
    refine ⟨agree_of_rejected fun i => ?_, hheld⟩
    rw [hfailed, mem_ids_addressed (List.ne_nil_of_mem (index_mem_writeTargets settings)),
      Index.refused, List.mem_filter, decide_eq_true_iff, hrejected, and_comm]

/-- **A search**, for nothing or for something. -/
theorem Stores.statuses (hserver : Stores settings rejected t held)
    (hsearch : Client.reachable settings settings.searchPath = true)
    (hmirror : Mirrors settings rejected (held s) x) (ids : List EntityId) :
    Agree ((Client.statuses settings t ids).exec s).1 (.ok (x.statuses ids)) ∧
      held ((Client.statuses settings t ids).exec s).2 = held s := by
  cases ids with
  | nil => exact ⟨agree_of_find? fun _ => rfl, rfl⟩
  | cons id ids =>
      obtain ⟨url, hreaches⟩ := Client.reaches_of_reachable hsearch
      have hholds := hmirror.holds _ (index_mem_writeTargets settings)
      have htyped : ∀ i : EntityId, ∀ source, held s settings.index i.text = some source →
          Typed source := by
        intro i source hsource
        rw [hholds, sources_text] at hsource
        obtain ⟨v, -, rfl⟩ := Option.map_eq_some_iff.mp hsource
        exact typed_sourceOf v
      obtain ⟨status, bytes, answer, s', hexchange, hsuccess, hbytes, hanswer, hheld⟩ :=
        hserver.search (.search settings (id :: ids) url) s _ rfl hreaches.address rfl
          (queried?_statusQuery (id :: ids)) (by
            intro text htext source hsource
            obtain ⟨i, -, rfl⟩ := List.mem_map.mp htext
            exact htyped i source hsource)
      obtain ⟨hits, hhits, hfind⟩ := hanswer.exists_hits fun i _ => htyped i
      have hexec : (Client.statuses settings t (id :: ids)).exec s
          = (.ok (Hit.statuses hits), s') := by
        rw [Client.statuses]
        show (_ >>= _ : Action σ _).exec s = _
        rw [Action.exec_bind_ok (Client.exec_send_of_success hreaches hexchange hsuccess),
          Action.exec_bind_ok (Client.exec_read (a := hits) (by
            rw [Option.bind_some, hbytes, Option.bind_some, hhits]) s')]
        rfl
      rw [hexec]
      refine ⟨agree_of_find? fun i => ?_, hheld⟩
      have hstatus : ((x.stored? i).map fun v => tree (sourceOf v)).map statusOf
          = (x.stored? i).map Stored.status := by
        rw [Option.map_map]
        exact Option.map_congr fun v hv =>
          statusOf_sourceOf fun d hd => hmirror.exact i d (hd ▸ hv)
      rw [hfind, Index.find?_statuses, hholds, sources_text, hstatus]

/-- A batch that is written on both sides; the log of calls that memory keeps does not count. -/
theorem Stores.batch (hserver : Stores settings rejected t held)
    (hbulk : Client.reachable settings Settings.bulkPath = true)
    (hmirror : Mirrors settings rejected (held s) x) {entries : List (EntityId × Stored)}
    (hexact : ∀ e ∈ entries, ∀ d, e.2 = .live d → Exact d.updated)
    (upserts tombstones : List (List EntityId)) :
    Agree ((((Client.writeBulk settings t (itemsOf entries)).exec s).1).map fun _ => [])
        ((x.verdict (entries.map Prod.fst)).map fun _ => []) ∧
      Mirrors settings rejected (held ((Client.writeBulk settings t (itemsOf entries)).exec s).2)
        ({ x with upserts, tombstones }.store entries) := by
  have hlogged : Mirrors settings rejected (held s) { x with upserts, tombstones } :=
    ⟨hmirror.holds, hmirror.exact, hmirror.rejected, hmirror.available⟩
  obtain ⟨hagree, hheld⟩ := hserver.write (s := s) hbulk (itemsOf entries) hmirror.rejected
  have hids : (itemsOf entries).map Prod.fst = entries.map Prod.fst := by
    rw [itemsOf, List.map_map]
    rfl
  rw [hids] at hagree
  exact ⟨hagree, hheld ▸ hlogged.store hexact⟩

/-- **One call on both sides** comes to the same, and leaves the same held. -/
theorem perform_agrees (hserver : Stores settings rejected t held)
    (hbulk : Client.reachable settings Settings.bulkPath = true)
    (hsearch : Client.reachable settings settings.searchPath = true)
    (hmirror : Mirrors settings rejected (held s) x) {c : IndexCall}
    (hexact : ∀ d ∈ c.documents, Exact d.updated) :
    Agree ((c.perform (Client.backend settings t)).exec s).1 ((c.perform Index.backend).exec x).1 ∧
      Mirrors settings rejected (held ((c.perform (Client.backend settings t)).exec s).2)
        ((c.perform Index.backend).exec x).2 := by
  cases c with
  | upsert docs =>
      have hentries : ∀ e ∈ docs.map fun d : Document => (d.id, Stored.live d), ∀ d, e.2 = .live d →
          Exact d.updated := by
        intro e he d hd
        obtain ⟨d', hd', rfl⟩ := List.mem_map.mp he
        obtain rfl := Stored.live.inj hd
        exact hexact d' hd'
      have hbatch := hserver.batch hbulk hmirror hentries (x.upserts ++ [docs.map Document.id])
        x.tombstones
      rw [itemsOf, List.map_map, List.map_map] at hbatch
      rw [IndexCall.perform, IndexCall.perform, Action.exec_bind_pure, Action.exec_bind_pure,
        Index.exec_upsert, if_pos hmirror.available]
      exact hbatch
  | tombstone ids =>
      have hentries : ∀ e ∈ ids.map fun i : EntityId => (i, Stored.tombstone), ∀ d, e.2 = .live d →
          Exact d.updated := by
        intro e he d hd
        obtain ⟨i, -, rfl⟩ := List.mem_map.mp he
        cases hd
      have hbatch := hserver.batch hbulk hmirror hentries x.upserts (x.tombstones ++ [ids])
      rw [itemsOf, List.map_map, List.map_map,
        show (Prod.fst ∘ fun i : EntityId => (i, Stored.tombstone)) = id from rfl,
        List.map_id] at hbatch
      rw [IndexCall.perform, IndexCall.perform, Action.exec_bind_pure, Action.exec_bind_pure,
        Index.exec_tombstone, if_pos hmirror.available]
      exact hbatch
  | statuses ids =>
      obtain ⟨hagree, hheld⟩ := hserver.statuses hsearch hmirror ids
      have hmemory : (Index.backend.statuses ids).exec x = (.ok (x.statuses ids), x) := by
        rw [Index.exec_statuses, if_pos hmirror.available]
      rw [IndexCall.perform, IndexCall.perform, hmemory]
      exact ⟨hagree, hheld.symm ▸ hmirror⟩

/-! ### Runs -/

/-- **Any calls in turn.** -/
theorem run_agrees (hserver : Stores settings rejected t held)
    (hbulk : Client.reachable settings Settings.bulkPath = true)
    (hsearch : Client.reachable settings settings.searchPath = true) {calls : List IndexCall}
    (hexact : ∀ c ∈ calls, ∀ d ∈ c.documents, Exact d.updated)
    (hmirror : Mirrors settings rejected (held s) x) :
    List.Forall₂ Agree (IndexCall.run (Client.backend settings t) calls s).1
        (IndexCall.run Index.backend calls x).1 ∧
      Mirrors settings rejected (held (IndexCall.run (Client.backend settings t) calls s).2)
        (IndexCall.run Index.backend calls x).2 := by
  induction calls generalizing s x with
  | nil => exact ⟨.nil, hmirror⟩
  | cons c calls ih =>
      obtain ⟨hagree, hmirror⟩ := perform_agrees hserver hbulk hsearch hmirror
        (hexact c List.mem_cons_self)
      obtain ⟨hagrees, hmirror⟩ := ih (fun c' hc' => hexact c' (List.mem_cons_of_mem c hc')) hmirror
      exact ⟨.cons hagree hagrees, hmirror⟩

/-- **The two indices agree.**  Against a server that keeps what is written but for some identifiers,
from empty indices on: a client and an index in memory that rejects the same identifiers answer every
call alike, and at the end all indices that the client writes to hold the same. -/
theorem indices_agree (hserver : Stores settings rejected t held)
    (hbulk : Client.reachable settings Settings.bulkPath = true)
    (hsearch : Client.reachable settings settings.searchPath = true)
    (hempty : ∀ index id, held s index id = none) {calls : List IndexCall}
    (hexact : ∀ c ∈ calls, ∀ d ∈ c.documents, Exact d.updated) :
    List.Forall₂ Agree (IndexCall.run (Client.backend settings t) calls s).1
        (IndexCall.run Index.backend calls { Index.empty with rejected }).1 ∧
      ∀ target, settings.reindexTarget = some target →
        held (IndexCall.run (Client.backend settings t) calls s).2 target
          = held (IndexCall.run (Client.backend settings t) calls s).2 settings.index := by
  have hnothing : sources { Index.empty with rejected } = fun _ => none := by
    funext id
    rw [sources]
    cases (EntityId.ofText? id).filter fun i => i.text = id <;> rfl
  have hmirror : Mirrors settings rejected (held s) { Index.empty with rejected } :=
    ⟨fun name _ => (funext (hempty name)).trans hnothing.symm, fun _ _ => nofun, rfl, rfl⟩
  obtain ⟨hagrees, hfinal⟩ := run_agrees hserver hbulk hsearch hexact hmirror
  refine ⟨hagrees, fun target htarget => ?_⟩
  have hmem : target ∈ settings.writeTargets := by
    rw [Settings.writeTargets, htarget]
    dsimp only
    split
    · rename_i heq
      exact List.mem_singleton.mpr heq
    · exact List.mem_cons_of_mem _ (List.mem_singleton_self _)
  rw [hfinal.holds target hmem, hfinal.holds _ (index_mem_writeTargets settings)]

end

/-! ### A session -/

/-- An index on this machine that is being indexed anew. -/
def doubled : Settings := ⟨"http://localhost:9200", "annotation", none, some "annotation_new", .never⟩

/-- A document whose body has members of the reserved names. -/
def shadowing (n : Nat) (v : Timestamp) : Document :=
  ⟨⟨.ofNat n⟩, v, [("deleted", .bool true), ("text", .string "a\nb"), ("updated", .string "never")]⟩

/-- A batch that names a document twice and one that is rejected, a tombstone, nothing, and a look at
all of it. -/
def session : List IndexCall :=
  [.upsert [shadowing 1 ⟨0, 0⟩, shadowing 2 ⟨0, 0⟩, shadowing 1 ⟨1709290000, 123456000⟩],
    .tombstone [⟨.ofNat 3⟩], .upsert [], .statuses [⟨.ofNat 1⟩, ⟨.ofNat 2⟩, ⟨.ofNat 3⟩]]

/-- The session at a server that rejects the second document. -/
def served : List (Except Error (Table EntityId IndexStatus)) × Holdings :=
  IndexCall.run (Client.backend doubled (Shelf.transport doubled.index [⟨.ofNat 2⟩])) session
    fun _ _ => none

/-- The session in memory. -/
def remembered : List (Except Error (Table EntityId IndexStatus)) × Index :=
  IndexCall.run Index.backend session { Index.empty with rejected := [⟨.ofNat 2⟩] }

theorem indices_agree_session :
    (Client.reachable doubled Settings.bulkPath = true ∧
      Client.reachable doubled doubled.searchPath = true ∧
      ∀ c ∈ session, ∀ d ∈ c.documents, Exact d.updated) ∧
    remembered.1 = [.error (.partialBatchFailure [⟨.ofNat 2⟩]), .ok [], .ok [],
      .ok [(⟨.ofNat 1⟩, ⟨some ⟨1709290000, 123456000⟩, false⟩), (⟨.ofNat 3⟩, ⟨none, true⟩)]] ∧
    List.Forall₂ Agree served.1 remembered.1 ∧
    ∀ target, doubled.reindexTarget = some target → served.2 target = served.2 doubled.index := by
  have hbulk : Client.reachable doubled Settings.bulkPath = true := by decide +kernel
  have hsearch : Client.reachable doubled doubled.searchPath = true := by decide +kernel
  have hexact : ∀ c ∈ session, ∀ d ∈ c.documents, Exact d.updated := by decide +kernel
  refine ⟨⟨hbulk, hsearch, hexact⟩, by decide +kernel, ?_⟩
  rw [served, remembered]
  exact indices_agree (Shelf.stores doubled [⟨.ofNat 2⟩]) hbulk hsearch (fun _ _ => rfl) hexact

end Outbox.Search
