import Mathlib.Data.List.Forall2
import Outbox.Proofs.Reading
import Outbox.Proofs.Search.Bulk
import Outbox.Proofs.Search.Client
import Outbox.Proofs.Uuid.Text

/-!
# A server that keeps what is written

What is asked of the other side: it carries out the writes of a bulk request in order, except those
for some identifiers, which it rejects one by one; and it answers a search with the version and the
flag of every document that it finds.  Replies are objects in which every name stands once; which
further members they have is left open.

* `Stores` — such a server, over any transport;
* `BulkAnswer.exists_reply`, `SearchAnswer.exists_hits` — what the client reads from its answers.
-/

namespace Outbox.Search

open Outbox.Json Outbox.Time

/-! ### What a server holds -/

/-- By index and identifier, the source that was written last. -/
abbrev Holdings := String → String → Option Tree

/-- Puts a source in its place. -/
def Holdings.put (h : Holdings) (w : Write) : Holdings := fun index id =>
  if index = w.index ∧ id = w.id then some w.source else h index id

/-- Carries out what is not rejected, in order. -/
def Holdings.apply (rejects : String → Bool) (ws : List Write) (h : Holdings) : Holdings :=
  (ws.filter fun w => !rejects w.id).foldl Holdings.put h

/-- Whether an identifier is rejected, by its text. -/
def rejects (rejected : List EntityId) (id : String) : Bool := decide (id ∈ rejected.map EntityId.text)

theorem rejects_text {rejected : List EntityId} {i : EntityId} :
    rejects rejected i.text = true ↔ i ∈ rejected := by
  rw [rejects, decide_eq_true_iff, List.mem_map]
  constructor
  · rintro ⟨j, hj, htext⟩
    exact EntityId.text_injective htext ▸ hj
  · exact fun h => ⟨i, h, rfl⟩

/-! ### Answers -/

/-- An object with these members, in which every name stands once. -/
structure IsRecord (t : Tree) (members : Table String Tree) : Prop where
  eq : t = .object (members.map fun m => (some m.1, m.2))
  nodup : (Table.keys members).Nodup

/-- The outcome of a write: it has an error exactly if it was rejected. -/
def ItemAnswer (rejected : List EntityId) (w : Write) (t : Tree) : Prop :=
  ∃ outcome members status, t = .object [(some "index", outcome)] ∧ IsRecord outcome members ∧
    Table.find? members "_id" = some (.string (some w.id)) ∧
    Table.find? members "status" = some (.numeral ⟨false, Decimal.digits status, [], none⟩) ∧
    status < 65536 ∧
    if rejects rejected w.id then
      ∃ e v, Table.find? members "error" = some e ∧ e.value? ItemResult.errorDepth = some v ∧ v ≠ .null
    else status < 300 ∧ Table.find? members "error" = none

/-- The answer to a bulk request: whether anything was rejected, and the outcomes in order. -/
def BulkAnswer (rejected : List EntityId) (ws : List Write) (t : Tree) : Prop :=
  ∃ members items, IsRecord t members ∧
    Table.find? members "errors" = some (.bool (ws.any fun w => rejects rejected w.id)) ∧
    Table.find? members "items" = some (.array items) ∧
    List.Forall₂ (ItemAnswer rejected) ws items

/-- A document that was found: its version and its flag as they are held. -/
def HitAnswer (id : String) (source : Tree) (t : Tree) : Prop :=
  ∃ members shown projection, IsRecord t members ∧
    Table.find? members "_id" = some (.string (some id)) ∧
    Table.find? members "_source" = some shown ∧ IsRecord shown projection ∧
    Table.find? projection "updated" = source.member? "updated" ∧
    Table.find? projection "deleted" = source.member? "deleted"

/-- The answer to a search: the documents that are held of those asked for. -/
def SearchAnswer (held : String → Option Tree) (ids : List String) (t : Tree) : Prop :=
  ∃ members outer inner hits, IsRecord t members ∧ Table.find? members "hits" = some outer ∧
    IsRecord outer inner ∧ Table.find? inner "hits" = some (.array hits) ∧
    (∀ h ∈ hits, ∃ id ∈ ids, ∃ source, held id = some source ∧ HitAnswer id source h) ∧
    ∀ id ∈ ids, ∀ source, held id = some source → ∃ h ∈ hits, HitAnswer id source h

/-- The version of a source is a text and its flag is one, if they are there. -/
structure Typed (source : Tree) : Prop where
  updated : ∀ t, source.member? "updated" = some t → ∃ s, t = .string (some s)
  deleted : ∀ t, source.member? "deleted" = some t → ∃ b, t = .bool b

/-- **A server that keeps what is written**, but for rejected identifiers, and shows it. -/
structure Stores {σ : Type} (settings : Settings) (rejected : List EntityId) (t : Transport σ)
    (held : σ → Holdings) : Prop where
  bulk : ∀ (request : Request) (s : σ) (ws : List Write), request.method = "POST" →
    Url.ofText (settings.address Settings.bulkPath) = .ok request.url →
    request.contentType = "application/x-ndjson" → writes? request.body = some ws →
    ∃ status bytes answer s', t.exchange request s = (.reply status bytes true, s') ∧
      Exchange.isSuccess status = true ∧ readBytes bytes = some answer ∧
      BulkAnswer rejected ws answer ∧ held s' = (held s).apply (rejects rejected) ws
  search : ∀ (request : Request) (s : σ) (ids : List String), request.method = "POST" →
    Url.ofText (settings.address settings.searchPath) = .ok request.url →
    request.contentType = "application/json" → queried? request.body = some ids →
    (∀ id ∈ ids, ∀ source, held s settings.index id = some source → Typed source) →
    ∃ status bytes answer s', t.exchange request s = (.reply status bytes true, s') ∧
      Exchange.isSuccess status = true ∧ readBytes bytes = some answer ∧
      SearchAnswer (held s settings.index) ids answer ∧ held s' = held s

/-! ### Reading records -/

theorem filter_members {members : Table String Tree} (hnodup : (Table.keys members).Nodup)
    (name : String) :
    (members.map fun m => ((some m.1 : Option String), m.2)).filter (fun m => m.1 == some name)
      = (Table.find? members name).toList.map fun t => (some name, t) := by
  induction members with
  | nil => rfl
  | cons m members ih =>
      obtain ⟨hfresh, hrest⟩ := List.nodup_cons.mp hnodup
      rw [List.map_cons, List.filter_cons, ih hrest, Table.find?_cons]
      by_cases hname : m.1 = name
      · have hnone : Table.find? members name = none :=
          Table.find?_eq_none_iff.mpr (hname ▸ hfresh)
        rw [if_pos (by simpa using hname), if_pos hname, hnone, hname]
        rfl
      · rw [if_neg (by simpa using hname), if_neg hname]

/-- The fields of a record are its members of these names. -/
theorem IsRecord.record? {t : Tree} {members : Table String Tree} (h : IsRecord t members)
    (names : List String) : record? names t = some (names.map (Table.find? members)) := by
  obtain ⟨rfl, hnodup⟩ := h
  have hnames : ((members.map fun m => ((some m.1 : Option String), m.2)).any
      fun m => m.1.isNone) = false := by
    simp
  rw [Search.record?, hnames]
  refine (congrArg (fun f => names.mapM f) (funext fun name => ?_)).trans
    (List.mapM_pure (f := Table.find? members))
  rw [filter_members hnodup]
  cases Table.find? members name <;> rfl

/-! ### Reading outcomes -/

theorem integer?_digits {n : Nat} (h : n ≤ Numeral.greatestWord) :
    Numeral.integer? ⟨false, Decimal.digits n, [], none⟩ = some (n : Int) := by
  have hnumber : Numeral.number? ⟨false, Decimal.digits n, [], none⟩ = some (.integer n) := by
    rw [Numeral.number?]
    dsimp only
    rw [Decimal.ofDigits_digits, if_pos (by simpa [Numeral.isWhole] using h)]
  rw [Numeral.integer?, hnumber]

section

variable {outcome : Tree} {members : Table String Tree} {id : String} {status : Nat}

/-- An outcome with an error that can be kept. -/
theorem ofTree?_of_error {e : Tree} {v : Json} (hrecord : IsRecord outcome members)
    (hid : Table.find? members "_id" = some (.string (some id)))
    (hstatus : Table.find? members "status"
      = some (.numeral ⟨false, Decimal.digits status, [], none⟩)) (hlt : status < 65536)
    (herror : Table.find? members "error" = some e)
    (hv : e.value? ItemResult.errorDepth = some v) (hne : v ≠ .null) :
    ItemResult.ofTree? outcome = some ⟨id, status, some v⟩ := by
  have hfields := hrecord.record? ["_id", "status", "error"]
  rw [List.map_cons, List.map_cons, List.map_cons, List.map_nil, hid, hstatus, herror] at hfields
  have hinteger := integer?_digits (n := status) (by rw [Numeral.greatestWord]; omega)
  have hrange : 0 ≤ (status : Int) ∧ (status : Int) < 65536 := by omega
  rw [ItemResult.ofTree?, hfields]
  cases e with
  | null =>
      cases hv
      exact absurd rfl hne
  | _ =>
      show (do
        let n ← Numeral.integer? ⟨false, Decimal.digits status, [], none⟩
        if 0 ≤ n ∧ n < 65536 then (do
          let error ← Option.map some (Tree.value? ItemResult.errorDepth _)
          some (⟨id, n.toNat, error⟩ : ItemResult))
        else none) = _
      rw [hinteger, Option.bind_eq_bind, Option.bind_some, if_pos hrange, hv]
      rfl

/-- An outcome without an error. -/
theorem ofTree?_of_success (hrecord : IsRecord outcome members)
    (hid : Table.find? members "_id" = some (.string (some id)))
    (hstatus : Table.find? members "status"
      = some (.numeral ⟨false, Decimal.digits status, [], none⟩)) (hlt : status < 65536)
    (herror : Table.find? members "error" = none) :
    ItemResult.ofTree? outcome = some ⟨id, status, none⟩ := by
  have hfields := hrecord.record? ["_id", "status", "error"]
  rw [List.map_cons, List.map_cons, List.map_cons, List.map_nil, hid, hstatus, herror] at hfields
  have hinteger := integer?_digits (n := status) (by rw [Numeral.greatestWord]; omega)
  have hrange : 0 ≤ (status : Int) ∧ (status : Int) < 65536 := by omega
  rw [ItemResult.ofTree?, hfields]
  show (do
    let n ← Numeral.integer? ⟨false, Decimal.digits status, [], none⟩
    if 0 ≤ n ∧ n < 65536 then some (⟨id, n.toNat, none⟩ : ItemResult) else none) = _
  rw [hinteger, Option.bind_eq_bind, Option.bind_some, if_pos hrange]
  rfl

end

namespace ItemResult

/-- A member of an item: the name of an action and its outcome. -/
def action? (m : Option String × Tree) : Option (String × ItemResult) := do
  let name ← m.1
  let result ← ofTree? m.2
  some (name, result)

theorem action?_eq_some_iff {m : Option String × Tree} {p : String × ItemResult} :
    action? m = some p ↔ m.1 = some p.1 ∧ ofTree? m.2 = some p.2 := by
  obtain ⟨name, result⟩ := p
  rw [action?]
  simp [Option.bind_eq_some_iff]

theorem actionsOfTree?_eq_some_iff {ms : List (Option String × Tree)} {rs : List ItemResult} :
    actionsOfTree? (.object ms) = some rs ↔
      ∃ results, ms.mapM action? = some results ∧ (Table.ofList results).map Prod.snd = rs := by
  show (ms.mapM action?).bind (fun results => some ((Table.ofList results).map Prod.snd)) = _ ↔ _
  simp [Option.bind_eq_some_iff]

end ItemResult

theorem actionsOfTree?_index {outcome : Tree} {r : ItemResult}
    (h : ItemResult.ofTree? outcome = some r) :
    ItemResult.actionsOfTree? (.object [(some "index", outcome)]) = some [r] := by
  have haction : ItemResult.action? (some "index", outcome) = some ("index", r) :=
    ItemResult.action?_eq_some_iff.mpr ⟨rfl, h⟩
  exact ItemResult.actionsOfTree?_eq_some_iff.mpr
    ⟨[("index", r)], mapM_eq_some_iff.mpr (.cons haction .nil), rfl⟩

/-- A reply is read by its flag and item by item. -/
theorem BulkReply.ofTree?_eq_some_iff {t : Tree} {errors : Bool} {xs : List Tree} {reply : BulkReply}
    (h : record? ["errors", "items"] t = some [some (.bool errors), some (.array xs)]) :
    BulkReply.ofTree? t = some reply ↔
      ∃ items, xs.mapM ItemResult.actionsOfTree? = some items ∧ ⟨errors, items⟩ = reply := by
  have hread : BulkReply.ofTree? t
      = (xs.mapM ItemResult.actionsOfTree?).bind fun items => some ⟨errors, items⟩ := by
    rw [BulkReply.ofTree?, h]
    rfl
  rw [hread]
  simp [Option.bind_eq_some_iff]

/-- The outcome of a write is read as one result, rejected or not as the server has it. -/
theorem ItemAnswer.exists_result {rejected : List EntityId} {w : Write} {t : Tree}
    (h : ItemAnswer rejected w t) :
    ∃ r : ItemResult, ItemResult.actionsOfTree? t = some [r] ∧ r.id = w.id ∧
      r.rejected = rejects rejected w.id := by
  obtain ⟨outcome, members, status, rfl, hrecord, hid, hstatus, hlt, herror⟩ := h
  by_cases hrejects : rejects rejected w.id = true
  · rw [if_pos hrejects] at herror
    obtain ⟨e, v, he, hv, hne⟩ := herror
    have hresult := ofTree?_of_error hrecord hid hstatus hlt he hv hne
    exact ⟨_, actionsOfTree?_index hresult, rfl, hrejects.symm⟩
  · rw [if_neg hrejects] at herror
    have hresult := ofTree?_of_success hrecord hid hstatus hlt herror.2
    refine ⟨_, actionsOfTree?_index hresult, rfl, ?_⟩
    rw [Bool.not_eq_true] at hrejects
    rw [hrejects, ItemResult.rejected]
    simpa using herror.1

/-- **What the client reads from the answer to a bulk request**: which identifiers were rejected. -/
theorem BulkAnswer.exists_reply {rejected : List EntityId} {ws : List Write} {t : Tree}
    (h : BulkAnswer rejected ws t) :
    ∃ reply, BulkReply.ofTree? t = some reply ∧
      ∀ i, i ∈ reply.failedIds ↔ i ∈ rejected ∧ i.text ∈ ws.map Write.id := by
  obtain ⟨members, items, hrecord, herrors, hitems, hanswers⟩ := h
  have hfields := hrecord.record? ["errors", "items"]
  rw [List.map_cons, List.map_cons, List.map_nil, herrors, hitems] at hfields
  obtain ⟨results, hresults, hread⟩ : ∃ results, items.mapM ItemResult.actionsOfTree? = some results ∧
      List.Forall₂ (fun (w : Write) rs => ∃ r : ItemResult, rs = [r] ∧ r.id = w.id ∧
        r.rejected = rejects rejected w.id) ws results := by
    clear hfields herrors hitems
    induction hanswers with
    | nil => exact ⟨[], rfl, .nil⟩
    | cons hanswer _ ih =>
        obtain ⟨r, hr, hr'⟩ := hanswer.exists_result
        obtain ⟨results, hresults, hread⟩ := ih
        exact ⟨[r] :: results, mapM_eq_some_iff.mpr (.cons hr (mapM_eq_some_iff.mp hresults)),
          .cons ⟨r, rfl, hr'⟩ hread⟩
  refine ⟨⟨ws.any fun w => rejects rejected w.id, results⟩, ?_, fun i => ?_⟩
  · exact (BulkReply.ofTree?_eq_some_iff hfields).mpr ⟨results, hresults, rfl⟩
  · -- a result that counts names a rejected identifier that was written, and the other way round
    have hresult : BulkReply.Rejects ⟨ws.any fun w => rejects rejected w.id, results⟩ i ↔
        ∃ w ∈ ws, rejects rejected w.id = true ∧ EntityId.ofText? w.id = some i := by
      simp only [BulkReply.Rejects, ← ItemResult.rejected_iff]
      clear hresults herrors hitems hanswers hfields
      induction hread with
      | nil => simp
      | cons hr _ ih =>
          obtain ⟨r, rfl, hid, hrejected⟩ := hr
          rw [List.flatten_cons, List.singleton_append, List.exists_mem_cons_iff,
            List.exists_mem_cons_iff, ih, hid, hrejected]
    rw [mem_failedIds, hresult]
    constructor
    · rintro ⟨-, w, hw, hrejects, hid⟩
      rw [rejects, decide_eq_true_iff, List.mem_map] at hrejects
      obtain ⟨j, hj, htext⟩ := hrejects
      rw [← htext, EntityId.ofText?_text, Option.some.injEq] at hid
      subst hid
      exact ⟨hj, List.mem_map.mpr ⟨w, hw, htext.symm⟩⟩
    · rintro ⟨hi, hmem⟩
      obtain ⟨w, hw, htext⟩ := List.mem_map.mp hmem
      have hrejects : rejects rejected w.id = true := htext ▸ rejects_text.mpr hi
      exact ⟨List.any_eq_true.mpr ⟨w, hw, hrejects⟩, w, hw, hrejects,
        htext ▸ EntityId.ofText?_text i⟩

/-! ### Reading hits -/

/-- The projection of a source: a version marker that cannot be read is none. -/
def statusOf (source : Tree) : IndexStatus :=
  ⟨((source.member? "updated").bind text?).bind fun s => readVersion? s.toList,
    ((source.member? "deleted").bind flag?).getD false⟩

theorem sourceOfTree?_of_typed {source shown : Tree} {projection : Table String Tree}
    (htyped : Typed source) (hrecord : IsRecord shown projection)
    (hupdated : Table.find? projection "updated" = source.member? "updated")
    (hdeleted : Table.find? projection "deleted" = source.member? "deleted") :
    Hit.sourceOfTree? shown = some ((source.member? "updated").bind text?,
      ((source.member? "deleted").bind flag?).getD false) := by
  have hfields := hrecord.record? ["updated", "deleted"]
  rw [List.map_cons, List.map_cons, List.map_nil, hupdated, hdeleted] at hfields
  have hu := htyped.updated
  have hd := htyped.deleted
  rw [Hit.sourceOfTree?, hfields]
  cases hupdated' : source.member? "updated" with
  | none =>
      cases hdeleted' : source.member? "deleted" with
      | none => rfl
      | some d =>
          obtain ⟨b, rfl⟩ := hd d hdeleted'
          rfl
  | some u =>
      obtain ⟨s, rfl⟩ := hu u hupdated'
      cases hdeleted' : source.member? "deleted" with
      | none => rfl
      | some d =>
          obtain ⟨b, rfl⟩ := hd d hdeleted'
          rfl

theorem HitAnswer.exists_hit {id : String} {source t : Tree} (h : HitAnswer id source t)
    (htyped : Typed source) :
    ∃ hit : Hit, Hit.ofTree? t = some hit ∧ hit.id = id ∧ hit.status = statusOf source := by
  obtain ⟨members, shown, projection, hrecord, hid, hsource, hshown, hupdated, hdeleted⟩ := h
  have hfields := hrecord.record? ["_id", "_source"]
  rw [List.map_cons, List.map_cons, List.map_nil, hid, hsource] at hfields
  refine ⟨⟨id, (source.member? "updated").bind text?,
    ((source.member? "deleted").bind flag?).getD false⟩, ?_, rfl, rfl⟩
  rw [Hit.ofTree?, hfields]
  show (Hit.sourceOfTree? shown).bind _ = _
  rw [sourceOfTree?_of_typed htyped hshown hupdated hdeleted]
  rfl

/-- **What the client reads from the answer to a search**: the projections of the documents that are
held of those asked for. -/
theorem SearchAnswer.exists_hits {held : String → Option Tree} {ids : List EntityId} {t : Tree}
    (h : SearchAnswer held (ids.map EntityId.text) t)
    (htyped : ∀ i ∈ ids, ∀ source, held i.text = some source → Typed source) :
    ∃ hits, Hit.listOfTree? t = some hits ∧
      ∀ i, Table.find? (Hit.statuses hits) i
        = if i ∈ ids then (held i.text).map statusOf else none := by
  obtain ⟨members, outer, inner, found, hrecord, houter, hinner, hfound, hsound, hcomplete⟩ := h
  have hfields := hrecord.record? ["hits"]
  rw [List.map_cons, List.map_nil, houter] at hfields
  have hfields' := hinner.record? ["hits"]
  rw [List.map_cons, List.map_nil, hfound] at hfields'
  have hread : ∀ tree ∈ found, ∃ i ∈ ids, ∃ source, ∃ hit : Hit, held i.text = some source ∧
      Hit.ofTree? tree = some hit ∧ hit.id = i.text ∧ hit.status = statusOf source := by
    intro tree htree
    obtain ⟨id, hid, source, hheld, hanswer⟩ := hsound tree htree
    obtain ⟨i, hi, rfl⟩ := List.mem_map.mp hid
    obtain ⟨hit, hhit, hname, hstatus⟩ := hanswer.exists_hit (htyped i hi source hheld)
    exact ⟨i, hi, source, hit, hheld, hhit, hname, hstatus⟩
  obtain ⟨hits, hhits, hmem⟩ := exists_mapM (f := Hit.ofTree?) (l := found) fun tree htree => by
    obtain ⟨-, -, -, hit, -, hhit, -⟩ := hread tree htree
    exact ⟨hit, hhit⟩
  -- the pairs of the table are those of the graph of what is held
  have hpairs : ∀ p : EntityId × IndexStatus,
      p ∈ hits.filterMap (fun h => (EntityId.ofText? h.id).map fun e => (e, h.status)) ↔
        p.1 ∈ ids ∧ (held p.1.text).map statusOf = some p.2 := by
    rintro ⟨i, st⟩
    rw [List.mem_filterMap]
    constructor
    · rintro ⟨hit, hhit, hp⟩
      obtain ⟨tree, htree, hofTree⟩ := (hmem hit).mp hhit
      obtain ⟨j, hj, source, hit', hheld, hhit', hname, hstatus⟩ := hread tree htree
      obtain rfl : hit = hit' := Option.some.inj (hofTree.symm.trans hhit')
      rw [hname, EntityId.ofText?_text, Option.map_some, Option.some.injEq, Prod.mk.injEq] at hp
      obtain ⟨rfl, rfl⟩ := hp
      exact ⟨hj, by rw [hheld, Option.map_some, hstatus]⟩
    · rintro ⟨hi, hstatus⟩
      obtain ⟨source, hheld, rfl⟩ := Option.map_eq_some_iff.mp hstatus
      obtain ⟨tree, htree, hanswer⟩ := hcomplete i.text (List.mem_map_of_mem hi) source hheld
      obtain ⟨hit, hhit, hname, hstatus'⟩ := hanswer.exists_hit (htyped i hi source hheld)
      refine ⟨hit, (hmem hit).mpr ⟨tree, htree, hhit⟩, ?_⟩
      rw [hname, EntityId.ofText?_text, Option.map_some, hstatus']
  refine ⟨hits, ?_, fun i => ?_⟩
  · rw [Hit.listOfTree?, hfields]
    show (record? ["hits"] outer).bind _ = _
    rw [hfields']
    exact hhits
  · exact Table.find?_ofList_of_mem_iff (f := fun i => (held i.text).map statusOf) hpairs i

/-! ### A server in memory -/

theorem isRecord_tree (ms : List (String × Json)) (h : (ms.map Prod.fst).Nodup) :
    IsRecord (tree (.object ms)) (ms.map fun m => (m.1, tree m.2)) := by
  refine ⟨?_, ?_⟩
  · show Tree.object (memberTrees ms) = _
    rw [memberTrees_eq_map, List.map_map]
    rfl
  · rw [Table.keys, List.map_map]
    exact h

namespace Shelf

/-- The outcome of a write. -/
def outcome (rejected : List EntityId) (w : Write) : Json :=
  .object [("index", .object
    (if rejects rejected w.id then
      [("_id", .string w.id), ("error", .string "rejected"), ("status", .int 400)]
    else [("_id", .string w.id), ("status", .int 201)]))]

/-- The reply to a bulk request. -/
def bulkReply (rejected : List EntityId) (ws : List Write) : Json :=
  .object [("errors", .bool (ws.any fun w => rejects rejected w.id)),
    ("items", .array (ws.map (outcome rejected)))]

/-- What is shown of a source: version and flag, as far as they are there. -/
def shown (source : Tree) : List (String × Json) :=
  (match source.member? "deleted" with
    | some (.bool b) => [("deleted", .bool b)]
    | _ => []) ++
  match source.member? "updated" with
    | some (.string (some s)) => [("updated", .string s)]
    | _ => []

/-- A document that was found. -/
def hit (id : String) (source : Tree) : Json :=
  .object [("_id", .string id), ("_source", .object (shown source))]

/-- The reply to a search. -/
def searchReply (held : String → Option Tree) (ids : List String) : Json :=
  .object [("hits", .object [("hits", .array (ids.filterMap fun id => (held id).map (hit id)))])]

/-- A reply with a body. -/
def success (j : Json) : Exchange := .reply 200 (Text.Utf8.encode j.text) true

/-- A reply to what is no request. -/
def refusal : Exchange := .reply 400 [] true

/-- Serves a request; `index` is the index that is searched. -/
def exchange (index : String) (rejected : List EntityId) (request : Request) (held : Holdings) :
    Exchange × Holdings :=
  if request.contentType = "application/x-ndjson" then
    match writes? request.body with
    | some ws => (success (bulkReply rejected ws), held.apply (rejects rejected) ws)
    | none => (refusal, held)
  else
    match queried? request.body with
    | some ids => (success (searchReply (held index) ids), held)
    | none => (refusal, held)

/-- The way to the server. -/
def transport (index : String) (rejected : List EntityId) : Transport Holdings where
  exchange := exchange index rejected
  wait _ held := held

theorem itemAnswer_outcome (rejected : List EntityId) (w : Write) :
    ItemAnswer rejected w (tree (outcome rejected w)) := by
  by_cases hrejects : rejects rejected w.id = true
  · refine ⟨_, _, 400, ?_, isRecord_tree [("_id", .string w.id), ("error", .string "rejected"),
      ("status", .int 400)] (by simp), rfl, ?_, by decide, ?_⟩
    · rw [outcome, if_pos hrejects]
      rfl
    · exact congrArg (fun n => some (Tree.numeral n)) (numeralOf_integer 400)
    · rw [if_pos hrejects]
      exact ⟨.string (some "rejected"), .string "rejected", rfl, rfl, nofun⟩
  · refine ⟨_, _, 201, ?_, isRecord_tree [("_id", .string w.id), ("status", .int 201)] (by simp), rfl,
      ?_, by decide, ?_⟩
    · rw [outcome, if_neg hrejects]
      rfl
    · exact congrArg (fun n => some (Tree.numeral n)) (numeralOf_integer 201)
    · rw [if_neg hrejects]
      exact ⟨by decide, rfl⟩

theorem bulkAnswer_bulkReply (rejected : List EntityId) (ws : List Write) :
    BulkAnswer rejected ws (tree (bulkReply rejected ws)) := by
  refine ⟨_, trees (ws.map (outcome rejected)), isRecord_tree [("errors", .bool _),
    ("items", .array _)] (by simp), rfl, rfl, ?_⟩
  rw [trees_eq_map, List.map_map, List.forall₂_map_right_iff, List.forall₂_same]
  exact fun w _ => itemAnswer_outcome rejected w

/-- What is shown of a source is what the source has. -/
theorem find?_shown {source : Tree} (htyped : Typed source) :
    (Table.keys (shown source)).Nodup ∧
      (Table.find? (shown source) "updated").map tree = source.member? "updated" ∧
      (Table.find? (shown source) "deleted").map tree = source.member? "deleted" := by
  have hupdated := htyped.updated
  have hdeleted := htyped.deleted
  rw [shown]
  cases hu : source.member? "updated" with
  | none =>
      cases hd : source.member? "deleted" with
      | none => exact ⟨List.nodup_nil, rfl, rfl⟩
      | some d =>
          obtain ⟨b, rfl⟩ := hdeleted d hd
          exact ⟨by simp [Table.keys], rfl, rfl⟩
  | some u =>
      obtain ⟨s, rfl⟩ := hupdated u hu
      cases hd : source.member? "deleted" with
      | none => exact ⟨by simp [Table.keys], rfl, rfl⟩
      | some d =>
          obtain ⟨b, rfl⟩ := hdeleted d hd
          exact ⟨by simp [Table.keys], rfl, rfl⟩

theorem hitAnswer_hit {id : String} {source : Tree} (htyped : Typed source) :
    HitAnswer id source (tree (hit id source)) := by
  obtain ⟨hnodup, hupdated, hdeleted⟩ := find?_shown htyped
  refine ⟨_, tree (.object (shown source)), _, isRecord_tree [("_id", .string id),
    ("_source", .object (shown source))] (by simp), rfl, rfl, isRecord_tree _ hnodup, ?_, ?_⟩
  · rw [Table.find?_map, hupdated]
  · rw [Table.find?_map, hdeleted]

theorem searchAnswer_searchReply {held : String → Option Tree} {ids : List String}
    (htyped : ∀ id ∈ ids, ∀ source, held id = some source → Typed source) :
    SearchAnswer held ids (tree (searchReply held ids)) := by
  refine ⟨_, _, _, trees (ids.filterMap fun id => (held id).map (hit id)),
    isRecord_tree [("hits", .object [("hits", .array _)])] (by simp), rfl,
    isRecord_tree [("hits", .array _)] (by simp), rfl, ?_, ?_⟩
  · intro h hh
    rw [trees_eq_map] at hh
    obtain ⟨j, hj, rfl⟩ := List.mem_map.mp hh
    obtain ⟨id, hid, hj⟩ := List.mem_filterMap.mp hj
    obtain ⟨source, hheld, rfl⟩ := Option.map_eq_some_iff.mp hj
    exact ⟨id, hid, source, hheld, hitAnswer_hit (htyped id hid source hheld)⟩
  · intro id hid source hheld
    refine ⟨tree (hit id source), ?_, hitAnswer_hit (htyped id hid source hheld)⟩
    rw [trees_eq_map]
    exact List.mem_map_of_mem (List.mem_filterMap.mpr ⟨id, hid, by rw [hheld]; rfl⟩)

/-- **There is such a server**, for any settings and any identifiers to reject. -/
theorem stores (settings : Settings) (rejected : List EntityId) :
    Stores settings rejected (transport settings.index rejected) fun held => held := by
  constructor
  case bulk =>
    intro request held ws _ _ htype hwrites
    refine ⟨200, _, _, _, ?_, rfl, readBytes_encode (bulkReply rejected ws),
      bulkAnswer_bulkReply rejected ws, rfl⟩
    show exchange settings.index rejected request held = _
    rw [exchange, if_pos htype, hwrites]
    rfl
  case search =>
    intro request held ids _ _ htype hqueried htyped
    refine ⟨200, _, _, _, ?_, rfl, readBytes_encode (searchReply (held settings.index) ids),
      searchAnswer_searchReply htyped, rfl⟩
    show exchange settings.index rejected request held = _
    rw [exchange, if_neg (by rw [htype]; decide), hqueried]
    rfl

end Shelf

end Outbox.Search
