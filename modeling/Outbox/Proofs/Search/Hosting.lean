import Outbox.Proofs.Search.Agreement
import Outbox.Proofs.Search.Notes
import Outbox.Proofs.Simulation.Blind
import Outbox.Proofs.Simulation.Sources

/-!
# A server that goes down and comes back

A server that keeps what is written, with what makes its calls fail: the identifiers that it rejects,
and whether it is up.  A client of such a server is blind to the bodies of documents: what is read
back from a source is its version and its flag, and both are written over the body.

* `lockstep_sendFrom`, `lockstep_send` — two requests that come to the same, with their retries;
* `backend_blind` — a client of such a server;
* `backend_confined` — the sources that a client sends, over any transport.
-/

namespace Outbox.Search

open Outbox.Action Outbox.Json Outbox.Memory

variable {σ : Type}

/-! ### The server -/

/-- A server with what makes its calls fail. -/
structure Hosted (σ : Type) where
  server : σ
  rejected : List EntityId
  available : Bool

/-- The ways to a server: by the identifiers that it rejects, and what comes back while it is down. -/
structure Hosting (σ : Type) where
  serve : List EntityId → Transport σ
  outage : Exchange

/-- The way to the server as it is at a time. -/
def Hosting.transport (h : Hosting σ) : Transport (Hosted σ) where
  exchange request x :=
    if x.available then
      let (exchange, server) := (h.serve x.rejected).exchange request x.server
      (exchange, { x with server })
    else (h.outage, x)
  wait d x := { x with server := (h.serve x.rejected).wait d x.server }

/-- The server keeps what is written, whatever it rejects, and as time passes. -/
structure Hosts (settings : Settings) (h : Hosting σ) (held : σ → Holdings) : Prop where
  stores : ∀ rejected, Stores settings rejected (h.serve rejected) held
  wait : ∀ rejected d s, held ((h.serve rejected).wait d s) = held s

/-! ### Sources that are read alike -/

/-- Two sources from which the same projection is read. -/
structure SameSource (t t' : Tree) : Prop where
  left : Typed t
  right : Typed t'
  status : statusOf t = statusOf t'

/-- **What is read of a source does not depend on the body.** -/
theorem sameSource_source {d d' : Document} (h : d.Alike d') :
    SameSource (tree d.source) (tree d'.source) := by
  refine ⟨typed_sourceOf (.live d), typed_sourceOf (.live d'), ?_⟩
  rw [statusOf, statusOf, updated_source, updated_source, deleted_source, deleted_source, h.updated]

theorem sameSource_tombstone : SameSource (tree tombstoneSource) (tree tombstoneSource) :=
  ⟨typed_sourceOf .tombstone, typed_sourceOf .tombstone, rfl⟩

/-- In an index the same identifiers are held, with sources that are read alike. -/
def SameHeld (index : String) (h h' : Holdings) : Prop :=
  ∀ id, Option.Rel SameSource (h index id) (h' index id)

/-- Two writes that differ in what is not read at most. -/
structure SameWrite (w w' : Write) : Prop where
  index : w.index = w'.index
  id : w.id = w'.id
  source : SameSource w.source w'.source

theorem SameHeld.apply {index : String} {h h' : Holdings} (hheld : SameHeld index h h')
    {ws ws' : List Write} (hws : List.Forall₂ SameWrite ws ws') (r : String → Bool) :
    SameHeld index (h.apply r ws) (h'.apply r ws') := by
  induction hws generalizing h h' with
  | nil => exact hheld
  | @cons w w' _ _ hw _ ih =>
      rw [Holdings.apply_cons, Holdings.apply_cons, ← hw.id]
      split
      · exact ih hheld
      · refine ih fun id => ?_
        rw [Holdings.put, Holdings.put, ← hw.index, ← hw.id]
        split
        · exact .some hw.source
        · exact hheld id

/-- Two items that differ in what is not read at most. -/
structure SameItem (p p' : Item) : Prop where
  id : p.1 = p'.1
  source : SameSource (tree p.2) (tree p'.2)

theorem sameWrite_addressed {items items' : List Item} (h : List.Forall₂ SameItem items items')
    (targets : List String) :
    List.Forall₂ SameWrite ((addressed targets items).map Write.ofItem)
      ((addressed targets items').map Write.ofItem) := by
  induction targets with
  | nil => exact .nil
  | cons target targets ih =>
      have hsplit : ∀ items : List Item, (addressed (target :: targets) items).map Write.ofItem
          = items.map (fun item => Write.ofItem (target, item))
            ++ (addressed targets items).map Write.ofItem := by
        intro items
        rw [addressed, List.flatMap_cons, List.map_append, List.map_map]
        rfl
      have hfirst : List.Forall₂ SameWrite (items.map fun item => Write.ofItem (target, item))
          (items'.map fun item => Write.ofItem (target, item)) := by
        rw [List.forall₂_map_left_iff, List.forall₂_map_right_iff]
        refine h.imp fun p p' hp => ⟨rfl, ?_, hp.source⟩
        exact congrArg EntityId.text hp.id
      rw [hsplit, hsplit]
      exact List.rel_append hfirst ih

/-! ### Requests that come to the same -/

/-- Two requests that write the same identifiers to the same places, or are the same. -/
structure SameRequest (q q' : Request) : Prop where
  method : q.method = q'.method
  url : q.url = q'.url
  contentType : q.contentType = q'.contentType
  authorization : q.authorization = q'.authorization
  body : q.body = q'.body ∨ ∃ ws ws', writes? q.body = some ws ∧ writes? q'.body = some ws' ∧
    ws.map (fun w => (w.index, w.id)) = ws'.map fun w => (w.index, w.id)

theorem SameRequest.refl (q : Request) : SameRequest q q := ⟨rfl, rfl, rfl, rfl, .inl rfl⟩

theorem sameRequest_bulk (settings : Settings) {items items' : List Item}
    (h : List.Forall₂ SameItem items items') (url : Url) :
    SameRequest (.bulk settings items url) (.bulk settings items' url) := by
  refine ⟨rfl, rfl, rfl, rfl, .inr ⟨_, _, writes?_bulkBody settings.writeTargets items,
    writes?_bulkBody settings.writeTargets items', ?_⟩⟩
  exact map_eq_of_forall₂ (sameWrite_addressed h settings.writeTargets)
    fun w w' hw => by rw [hw.index, hw.id]

namespace Client

/-! ### Any transport -/

section

variable {R : σ → σ → Prop} {Q : SuccessBody → SuccessBody → Prop} {t : Transport σ}

/-- **Retries.**  Where one attempt is in lockstep, so are all. -/
theorem lockstep_sendFrom (policy : RetryPolicy) {q q' : Request}
    (hattempt : Lockstep R Q (attempt t q) (attempt t q'))
    (hwait : ∀ d s s', R s s' → R (t.wait d s) (t.wait d s')) (retry : UInt32) :
    Lockstep R Q (sendFrom policy t q retry) (sendFrom policy t q' retry) := by
  induction retry using retry_induction policy with
  | step retry ih =>
      intro s s' hs
      obtain ⟨hvalue, hstate⟩ := hattempt s s' hs
      rw [exec_sendFrom, exec_sendFrom]
      generalize (attempt t q).exec s = p at hvalue hstate
      generalize (attempt t q').exec s' = p' at hvalue hstate
      obtain ⟨r, x⟩ := p
      obtain ⟨r', x'⟩ := p'
      cases hvalue with
      | ok hbody => exact ⟨.ok hbody, hstate⟩
      | error e =>
          dsimp only
          split
          · rename_i hagain
            exact ih hagain.1 _ _ (hwait _ _ _ hstate)
          · exact ⟨.error e, hstate⟩

theorem lockstep_send {settings : Settings} {path : String} {request request' : Url → Request}
    (hattempt : ∀ url, Url.ofText (settings.address path) = .ok url →
      Lockstep R Q (attempt t (request url)) (attempt t (request' url)))
    (hwait : ∀ d s s', R s s' → R (t.wait d s) (t.wait d s')) :
    Lockstep R Q (send settings t path request) (send settings t path request') := by
  rw [send, send]
  split
  · exact .throw _
  · rename_i url hurl
    split
    · exact lockstep_sendFrom settings.retry (hattempt url hurl) hwait 0
    · exact .throw _

/-- What is read of the body of a success. -/
def reading {α : Type} (ofTree? : Tree → Option α) (body : SuccessBody) : Option α :=
  body.bind fun bytes => (readBytes bytes).bind ofTree?

theorem read_eq {α : Type} (ofTree? : Tree → Option α) (body : SuccessBody) :
    (read ofTree? body : Action σ α) = match reading ofTree? body with
      | some a => pure a
      | none => throw (.http .badBody) :=
  rfl

theorem lockstep_read {α β : Type} {ofTree? : Tree → Option α} (view : α → β)
    {body body' : SuccessBody}
    (h : (reading ofTree? body).map view = (reading ofTree? body').map view) :
    Lockstep R (fun a a' => view a = view a') (read ofTree? body : Action σ α)
      (read ofTree? body') := by
  rw [read_eq, read_eq]
  cases hbody : reading ofTree? body with
  | none =>
      rw [hbody, Option.map_none, eq_comm, Option.map_eq_none_iff] at h
      rw [h]
      exact .throw _
  | some a =>
      rw [hbody, Option.map_some, eq_comm, Option.map_eq_some_iff] at h
      obtain ⟨a', ha', hview⟩ := h
      rw [ha']
      exact .pure hview.symm

end

end Client

/-! ### A server that keeps what is written -/

section

variable {settings : Settings} {rejected : List EntityId} {t : Transport σ} {held : σ → Holdings}

/-- The states of a server, as far as sources are read. -/
def Unread (settings : Settings) (held : σ → Holdings) (s s' : σ) : Prop :=
  SameHeld settings.index (held s) (held s')

theorem Unread.typed {s s' : σ} (h : Unread settings held s s') :
    (∀ id source, held s settings.index id = some source → Typed source) ∧
      ∀ id source, held s' settings.index id = some source → Typed source := by
  constructor
  · intro id source hsource
    have hrel := h id
    generalize held s' settings.index id = found at hrel
    rw [hsource] at hrel
    cases hrel with
    | some hsame => exact hsame.left
  · intro id source hsource
    have hrel := h id
    generalize held s settings.index id = found at hrel
    rw [hsource] at hrel
    cases hrel with
    | some hsame => exact hsame.right

/-- What a search shows. -/
def projections? (body : SuccessBody) : Option (Table EntityId IndexStatus) :=
  (Client.reading Hit.listOfTree? body).map Hit.statuses

/-- What a write reports. -/
def failures? (body : SuccessBody) : Option (List EntityId) :=
  (Client.reading BulkReply.ofTree? body).map BulkReply.failedIds

/-- A search shows the projections of what is held. -/
theorem Stores.exec_search (hserver : Stores settings rejected t held) {url : Url}
    (hurl : Url.ofText (settings.address settings.searchPath) = .ok url) (ids : List EntityId)
    {s : σ} (htyped : ∀ id source, held s settings.index id = some source → Typed source) :
    ∃ bytes hits s',
      (Client.attempt t (.search settings ids url)).exec s = (.ok (some bytes), s') ∧
        Client.reading Hit.listOfTree? (some bytes) = some hits ∧ held s' = held s ∧
        ∀ i, Table.find? (Hit.statuses hits) i
          = if i ∈ ids then (held s settings.index i.text).map statusOf else none := by
  obtain ⟨status, bytes, answer, s', hexchange, hsuccess, hbytes, hanswer, hheld⟩ :=
    hserver.search (.search settings ids url) s _ rfl hurl rfl (queried?_statusQuery ids)
      fun id _ => htyped id
  obtain ⟨hits, hhits, hfind⟩ := hanswer.exists_hits fun i _ => htyped i.text
  refine ⟨bytes, hits, s', Client.exec_attempt_of_success hexchange hsuccess, ?_, hheld, hfind⟩
  rw [Client.reading, Option.bind_some, hbytes, Option.bind_some, hhits]

/-- **A search** shows the same. -/
theorem Stores.lockstep_search (hserver : Stores settings rejected t held) {url : Url}
    (hurl : Url.ofText (settings.address settings.searchPath) = .ok url) (ids : List EntityId) :
    Lockstep (Unread settings held) (fun b b' => projections? b = projections? b')
      (Client.attempt t (.search settings ids url))
      (Client.attempt t (.search settings ids url)) := by
  intro s s' hs
  obtain ⟨bytes, hits, x, hexec, hread, hheld, hfind⟩ := hserver.exec_search hurl ids hs.typed.1
  obtain ⟨bytes', hits', x', hexec', hread', hheld', hfind'⟩ :=
    hserver.exec_search hurl ids hs.typed.2
  have htable : Hit.statuses hits = Hit.statuses hits' := by
    refine Table.ext_of_sorted EntityId.ranked (Table.sorted_ofList EntityId.ranked _)
      (Table.sorted_ofList EntityId.ranked _) fun i => ?_
    have hrel := hs i.text
    rw [hfind, hfind']
    split
    · generalize held s settings.index i.text = source at hrel
      generalize held s' settings.index i.text = source' at hrel
      cases hrel with
      | none => rfl
      | some hsame => exact congrArg some hsame.status
    · rfl
  rw [hexec, hexec']
  refine ⟨.ok ?_, ?_⟩
  · rw [projections?, projections?, hread, hread', Option.map_some, Option.map_some, htable]
  · rw [Unread, hheld, hheld']
    exact hs

/-- A write reports what it rejects, and the rest is held. -/
theorem Stores.exec_bulk (hserver : Stores settings rejected t held) {url : Url}
    (hurl : Url.ofText (settings.address Settings.bulkPath) = .ok url) (items : List Item) (s : σ) :
    ∃ bytes reply s',
      (Client.attempt t (.bulk settings items url)).exec s = (.ok (some bytes), s') ∧
        Client.reading BulkReply.ofTree? (some bytes) = some reply ∧
        held s' = (held s).apply (rejects rejected)
          ((addressed settings.writeTargets items).map Write.ofItem) ∧
        ∀ i, i ∈ reply.failedIds ↔ i ∈ rejected ∧ i ∈ items.map Prod.fst := by
  obtain ⟨status, bytes, answer, s', hexchange, hsuccess, hbytes, hanswer, hheld⟩ :=
    hserver.bulk (.bulk settings items url) s _ rfl hurl rfl
      (writes?_bulkBody settings.writeTargets items)
  obtain ⟨reply, hreply, hfailed⟩ := hanswer.exists_reply
  refine ⟨bytes, reply, s', Client.exec_attempt_of_success hexchange hsuccess, ?_, hheld,
    fun i => ?_⟩
  · rw [Client.reading, Option.bind_some, hbytes, Option.bind_some, hreply]
  · rw [hfailed, mem_ids_addressed (List.ne_nil_of_mem (index_mem_writeTargets settings))]

/-- **A write** reports the same, and leaves the same held. -/
theorem Stores.lockstep_bulk (hserver : Stores settings rejected t held) {url : Url}
    (hurl : Url.ofText (settings.address Settings.bulkPath) = .ok url) {items items' : List Item}
    (hitems : List.Forall₂ SameItem items items') :
    Lockstep (Unread settings held) (fun b b' => failures? b = failures? b')
      (Client.attempt t (.bulk settings items url))
      (Client.attempt t (.bulk settings items' url)) := by
  intro s s' hs
  obtain ⟨bytes, reply, x, hexec, hread, hheld, hfailed⟩ := hserver.exec_bulk hurl items s
  obtain ⟨bytes', reply', x', hexec', hread', hheld', hfailed'⟩ :=
    hserver.exec_bulk hurl items' s'
  have hfailures : reply.failedIds = reply'.failedIds := by
    refine failedIds_ext fun i => ?_
    rw [hfailed, hfailed', map_eq_of_forall₂ hitems fun _ _ hp => hp.id]
  rw [hexec, hexec']
  refine ⟨.ok ?_, ?_⟩
  · rw [failures?, failures?, hread, hread', Option.map_some, Option.map_some, hfailures]
  · rw [Unread, hheld, hheld']
    exact hs.apply (sameWrite_addressed hitems settings.writeTargets) (rejects rejected)

end

/-! ### A server with outages -/

/-- Two states of a server with notes that differ at most in what is not read. -/
structure Hosted.Akin (settings : Settings) (held : σ → Holdings) (x x' : Hosted σ × Notes) :
    Prop where
  rejected : x.1.rejected = x'.1.rejected
  available : x.1.available = x'.1.available
  held : Unread settings held x.1.server x'.1.server
  notes : List.Forall₂ (fun n n' => SameRequest n.1 n'.1) x.2 x'.2

variable {settings : Settings} {h : Hosting σ} {held : σ → Holdings}

theorem Hosted.Akin.refl {x : Hosted σ × Notes}
    (htyped : ∀ id source, held x.1.server settings.index id = some source → Typed source) :
    Hosted.Akin settings held x x := by
  refine ⟨rfl, rfl, fun id => ?_, List.forall₂_same.mpr fun n _ => .refl n.1⟩
  cases hsource : held x.1.server settings.index id with
  | none => exact .none
  | some source => exact .some ⟨htyped id source hsource, htyped id source hsource, rfl⟩

/-- **An attempt**, while the server is up or down; `view` is what counts of a reply. -/
theorem lockstep_attempt {α : Type} (view : SuccessBody → α) {q q' : Request}
    (hsame : SameRequest q q')
    (hserved : ∀ rejected, Lockstep (Unread settings held) (fun b b' => view b = view b')
      (Client.attempt (h.serve rejected) q) (Client.attempt (h.serve rejected) q')) :
    Lockstep (Hosted.Akin settings held) (fun b b' => view b = view b')
      (Client.attempt h.transport.noting q) (Client.attempt h.transport.noting q') := by
  have hexec : ∀ (q : Request) (x : Hosted σ × Notes),
      (Client.attempt h.transport.noting q).exec x
        = (((h.transport.exchange q x.1).1).outcome q.url.text, (h.transport.exchange q x.1).2,
            x.2 ++ [(q, (h.transport.exchange q x.1).1)]) := fun _ _ => rfl
  intro x x' hx
  have hnotes : ∀ e e', List.Forall₂ (fun n n' => SameRequest n.1 n'.1) (x.2 ++ [(q, e)])
      (x'.2 ++ [(q', e')]) := fun e e' => List.rel_append hx.notes (.cons hsame .nil)
  rw [hexec, hexec]
  obtain ⟨hvalue, hstate⟩ := hserved x.1.rejected x.1.server x'.1.server hx.held
  cases hup : x.1.available with
  | true =>
      have hexchange : h.transport.exchange q x.1
          = (((h.serve x.1.rejected).exchange q x.1.server).1,
              { x.1 with server := ((h.serve x.1.rejected).exchange q x.1.server).2 }) :=
        if_pos hup
      have hexchange' : h.transport.exchange q' x'.1
          = (((h.serve x.1.rejected).exchange q' x'.1.server).1,
              { x'.1 with server := ((h.serve x.1.rejected).exchange q' x'.1.server).2 }) := by
        rw [hx.rejected]
        exact if_pos (hx.available.symm.trans hup)
      rw [hexchange, hexchange']
      exact ⟨hvalue, hx.rejected, hx.available, hstate, hnotes _ _⟩
  | false =>
      have hdown : ¬x.1.available = true := by rw [hup]; decide
      have hexchange : h.transport.exchange q x.1 = (h.outage, x.1) := if_neg hdown
      have hexchange' : h.transport.exchange q' x'.1 = (h.outage, x'.1) :=
        if_neg (hx.available ▸ hdown)
      rw [hexchange, hexchange', ← hsame.url]
      refine ⟨?_, hx.rejected, hx.available, hx.held, hnotes _ _⟩
      cases h.outage.outcome q.url.text with
      | ok body => exact .ok rfl
      | error e => exact .error e

section

variable (hhosts : Hosts settings h held)

include hhosts

theorem akin_wait (d : Time.Duration) (x x' : Hosted σ × Notes)
    (hx : Hosted.Akin settings held x x') :
    Hosted.Akin settings held (h.transport.noting.wait d x) (h.transport.noting.wait d x') := by
  refine ⟨hx.rejected, hx.available, ?_, hx.notes⟩
  show SameHeld settings.index (held ((h.serve x.1.rejected).wait d x.1.server))
    (held ((h.serve x'.1.rejected).wait d x'.1.server))
  rw [hhosts.wait, hhosts.wait]
  exact hx.held

theorem lockstep_statuses (ids : List EntityId) :
    Lockstep (Hosted.Akin settings held) Eq (Client.statuses settings h.transport.noting ids)
      (Client.statuses settings h.transport.noting ids) := by
  rw [Client.statuses]
  cases ids.isEmpty with
  | true => exact .pure rfl
  | false =>
      have hsend : Lockstep (Hosted.Akin settings held) (fun b b' => projections? b = projections? b')
          (Client.send settings h.transport.noting settings.searchPath (.search settings ids))
          (Client.send settings h.transport.noting settings.searchPath (.search settings ids)) :=
        Client.lockstep_send (fun url hurl => lockstep_attempt projections? (.refl _)
          fun rejected => (hhosts.stores rejected).lockstep_search hurl ids) (akin_wait hhosts)
      refine hsend.bind fun body body' hbody => ?_
      exact (Client.lockstep_read Hit.statuses hbody).bind fun hits hits' hhits => .pure hhits

theorem lockstep_writeBulk {items items' : List Item} (hitems : List.Forall₂ SameItem items items') :
    Lockstep (Hosted.Akin settings held) Eq (Client.writeBulk settings h.transport.noting items)
      (Client.writeBulk settings h.transport.noting items') := by
  rw [Client.writeBulk, Client.writeBulk, ← isEmpty_of_forall₂ hitems]
  cases items.isEmpty with
  | true => exact .pure rfl
  | false =>
      have hsend : Lockstep (Hosted.Akin settings held) (fun b b' => failures? b = failures? b')
          (Client.send settings h.transport.noting Settings.bulkPath (.bulk settings items))
          (Client.send settings h.transport.noting Settings.bulkPath (.bulk settings items')) :=
        Client.lockstep_send (fun url hurl => lockstep_attempt failures?
          (sameRequest_bulk settings hitems url)
            fun rejected => (hhosts.stores rejected).lockstep_bulk hurl hitems) (akin_wait hhosts)
      refine hsend.bind fun body body' hbody => ?_
      refine (Client.lockstep_read BulkReply.failedIds hbody).bind fun reply reply' hreply => ?_
      rw [hreply]
      split
      · exact .pure rfl
      · exact .throw _

/-- **A client of such a server is blind to bodies.** -/
theorem backend_blind :
    (Client.backend settings h.transport.noting).Blind (Hosted.Akin settings held) := by
  constructor
  case statuses => exact lockstep_statuses hhosts
  case upsert =>
    intro docs docs' hdocs
    refine lockstep_writeBulk hhosts ?_
    rw [List.forall₂_map_left_iff, List.forall₂_map_right_iff]
    exact hdocs.imp fun d d' hd => ⟨hd.id, sameSource_source hd⟩
  case tombstone =>
    intro ids
    refine lockstep_writeBulk hhosts ?_
    rw [List.forall₂_map_left_iff, List.forall₂_map_right_iff, List.forall₂_same]
    exact fun i _ => ⟨rfl, sameSource_tombstone⟩

end

/-! ### Sources that are sent -/

/-- What was noted of writes since: their sources are those of tombstones, or of documents that `P`
allows. -/
def SentOr (P : Document → Prop) (x x' : σ × Notes) : Prop :=
  ∃ new, x'.2 = x.2 ++ new ∧ ∀ n ∈ new, n.1.contentType = "application/x-ndjson" →
    ∃ ws, writes? n.1.body = some ws ∧ ∀ w ∈ ws, w.source = tree tombstoneSource ∨
      ∃ d, P d ∧ w.id = d.id.text ∧ w.source = tree d.source

theorem sentOr_writeBulk {P : Document → Prop} {t : Transport σ} {items : List Item}
    (hitems : ∀ p ∈ items, p.2 = tombstoneSource ∨ ∃ d, P d ∧ p.1 = d.id ∧ p.2 = d.source)
    (x : σ × Notes) : SentOr P x ((Client.writeBulk settings t.noting items).exec x).2 := by
  obtain ⟨new, hnew, hrequests⟩ := Client.noted_writeBulk items x
  refine ⟨new, hnew, fun n hn _ => ?_⟩
  obtain ⟨url, hrequest⟩ := hrequests n hn
  rw [hrequest]
  refine ⟨_, writes?_bulkBody settings.writeTargets items, fun w hw => ?_⟩
  obtain ⟨p, hp, rfl⟩ := List.mem_map.mp hw
  obtain ⟨target, htarget, hp⟩ := List.mem_flatMap.mp hp
  obtain ⟨item, hitem, rfl⟩ := List.mem_map.mp hp
  cases hitems item hitem with
  | inl htomb => exact .inl (congrArg tree htomb)
  | inr hdoc =>
      obtain ⟨d, hd, hid, hsource⟩ := hdoc
      exact .inr ⟨d, hd, congrArg EntityId.text hid, congrArg tree hsource⟩

/-- **The sources that a client sends** are those of the documents that it is given. -/
theorem backend_confined (t : Transport σ) : (Client.backend settings t.noting).Confined SentOr := by
  constructor
  case refl => exact fun P x => ⟨[], (List.append_nil _).symm, fun n hn => nomatch hn⟩
  case trans =>
    intro P x y z hxy hyz
    obtain ⟨new, hnew, hsent⟩ := hxy
    obtain ⟨new', hnew', hsent'⟩ := hyz
    refine ⟨new ++ new', by rw [hnew', hnew, List.append_assoc], fun n hn => ?_⟩
    cases List.mem_append.mp hn with
    | inl hmem => exact hsent n hmem
    | inr hmem => exact hsent' n hmem
  case statuses =>
    intro P ids x
    obtain ⟨new, hnew, hrequests⟩ := Client.noted_statuses ids x
    refine ⟨new, hnew, fun n hn htype => ?_⟩
    obtain ⟨url, hrequest⟩ := hrequests n hn
    rw [hrequest] at htype
    have hnames : "application/json" = "application/x-ndjson" := htype
    exact absurd hnames (by decide)
  case upsert =>
    intro P docs x hdocs
    refine sentOr_writeBulk (fun p hp => ?_) x
    obtain ⟨d, hd, rfl⟩ := List.mem_map.mp hp
    exact .inr ⟨d, hdocs d hd, rfl, rfl⟩
  case tombstone =>
    intro P ids x
    refine sentOr_writeBulk (fun p hp => ?_) x
    obtain ⟨i, hi, rfl⟩ := List.mem_map.mp hp
    exact .inl rfl

end Outbox.Search
