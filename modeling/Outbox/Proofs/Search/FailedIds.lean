import Mathlib.Logic.Relation
import Outbox.Proofs.Lockstep
import Outbox.Proofs.Registry
import Outbox.Proofs.Search.Server

/-!
# Rejected identifiers, listed in one way

A reply may name what it rejected in many ways: in any order, once for each index that was written to,
in any spelling, in an item with its members in any order.  What is reported are the identifiers, and
these in ascending order.  So two replies that reject the same are reported alike.

* `Restated`, `Restated.rejects_iff` — the same outcomes, put in another way;
* `Reordered`, `Reordered.exists_actions` — the same items, written in another order;
* `failedIds_listedOnce` — what is reported of a reply.
-/

namespace Outbox.Search

open Outbox.Json

/-! ### The same outcomes -/

namespace ItemResult

/-- The outcome is for an entity, in whatever spelling. -/
def Names (r : ItemResult) (i : EntityId) : Prop :=
  r.id.toList.map Char.toLower ∈ i.uuid.spellings

theorem names_iff {r : ItemResult} {i : EntityId} : r.Names i ↔ EntityId.ofText? r.id = some i :=
  EntityId.ofText?_eq_some_iff.symm

/-- The same outcome for the same entity, which may be spelled in another way. -/
structure Respelled (r r' : ItemResult) : Prop where
  status : r.status = r'.status
  error : r.error = r'.error
  names : ∃ i, r.Names i ∧ r'.Names i

end ItemResult

/-- The same outcomes, put in another way. -/
inductive Restated : List (List ItemResult) → List (List ItemResult) → Prop
  /-- The items in another order. -/
  | items {xs ys : List (List ItemResult)} (h : xs.Perm ys) : Restated xs ys
  /-- The outcomes of an item in another order. -/
  | actions {rs rs' : List ItemResult} (xs : List (List ItemResult)) (h : rs.Perm rs') :
      Restated (rs :: xs) (rs' :: xs)
  /-- One more item, which rejects only what was rejected before. -/
  | again {rs : List ItemResult} {xs : List (List ItemResult)}
      (h : ∀ r ∈ rs, r.rejected = true → ∀ i, r.Names i →
        ∃ r' ∈ xs.flatten, r'.rejected = true ∧ r'.Names i) :
      Restated xs (rs :: xs)
  /-- An outcome with another spelling of its identifier. -/
  | spelling {r r' : ItemResult} (rs : List ItemResult) (xs : List (List ItemResult))
      (h : r.Respelled r') : Restated ((r :: rs) :: xs) ((r' :: rs) :: xs)

namespace BulkReply

theorem rejects_iff {reply : BulkReply} {i : EntityId} :
    reply.Rejects i ↔ ∃ r ∈ reply.items.flatten, r.rejected = true ∧ r.Names i := by
  simp only [Rejects, ItemResult.names_iff, ItemResult.rejected_iff]

/-- A reply that rejects what another one does is reported as that one. -/
theorem failedIds_eq {reply reply' : BulkReply} (herrors : reply.errors = reply'.errors)
    (h : ∀ i, reply.Rejects i ↔ reply'.Rejects i) : reply.failedIds = reply'.failedIds := by
  refine failedIds_ext fun i => ?_
  rw [mem_failedIds, mem_failedIds, herrors]
  exact and_congr_right fun _ => h i

end BulkReply

/-- **One way or another** the same is rejected. -/
theorem Restated.rejects_iff {errors : Bool} {xs ys : List (List ItemResult)} (h : Restated xs ys)
    (i : EntityId) : BulkReply.Rejects ⟨errors, xs⟩ i ↔ BulkReply.Rejects ⟨errors, ys⟩ i := by
  rw [BulkReply.rejects_iff, BulkReply.rejects_iff]
  dsimp only
  cases h with
  | items h => simp only [h.flatten.mem_iff]
  | actions xs h => simp only [List.flatten_cons, List.mem_append, h.mem_iff]
  | @again rs xs h =>
      simp only [List.flatten_cons, List.mem_append, or_and_right, exists_or]
      exact ⟨.inr, fun hmem => hmem.elim (fun ⟨r, hr, hrejected, hi⟩ => h r hr hrejected i hi) id⟩
  | @spelling r r' rs xs h =>
      have hrejected : r.rejected = r'.rejected := by
        rw [ItemResult.rejected, ItemResult.rejected, h.status, h.error]
      have hnames : r.Names i ↔ r'.Names i := by
        obtain ⟨j, hj, hj'⟩ := h.names
        rw [ItemResult.names_iff] at hj hj'
        rw [ItemResult.names_iff, ItemResult.names_iff, hj, hj']
      simp only [List.flatten_cons, List.cons_append, List.exists_mem_cons_iff, hrejected, hnames]

/-- However often it was put in another way. -/
theorem failedIds_restated {errors : Bool} {xs ys : List (List ItemResult)}
    (h : Relation.EqvGen Restated xs ys) :
    BulkReply.failedIds ⟨errors, xs⟩ = BulkReply.failedIds ⟨errors, ys⟩ := by
  induction h with
  | rel xs ys h => exact BulkReply.failedIds_eq rfl h.rejects_iff
  | refl xs => rfl
  | symm xs ys _ ih => exact ih.symm
  | trans xs ys zs _ _ ih ih' => exact ih.trans ih'

/-! ### The same members in another order -/

/-- The same item, written with its members in another order, or those of an outcome.  Of two members
with one name the later would count, so the names of an item must differ. -/
inductive Reordered : Tree → Tree → Prop
  | item {ms ms' : List (Option String × Tree)} (hnames : (ms.map Prod.fst).Nodup)
      (h : ms.Perm ms') : Reordered (.object ms) (.object ms')
  | outcome {fs fs' : List (Option String × Tree)} (name : Option String)
      (ms : List (Option String × Tree)) (h : fs.Perm fs') :
      Reordered (.object ((name, .object fs) :: ms)) (.object ((name, .object fs') :: ms))

/-- Records do not remember the order of their members. -/
theorem record?_perm {ms ms' : List (Option String × Tree)} (h : ms.Perm ms')
    (names : List String) : record? names (.object ms) = record? names (.object ms') := by
  rw [record?, record?, h.any_eq]
  refine if_congr Iff.rfl rfl (congrArg (fun f => names.mapM f) (funext fun name => ?_))
  have hfound := h.filter fun m => m.1 == some name
  generalize ms.filter (fun m => m.1 == some name) = found at hfound ⊢
  generalize ms'.filter (fun m => m.1 == some name) = found' at hfound ⊢
  rcases found with _ | ⟨m, _ | ⟨m', found⟩⟩
  · rw [List.nil_perm.mp hfound]
  · rw [List.singleton_perm.mp hfound]
  · -- a name that repeats does so in any order
    have hlength := hfound.length_eq
    rcases found' with _ | ⟨n, _ | ⟨n', found'⟩⟩
    · simp at hlength
    · simp at hlength
    · rfl

/-- **In another order** the outcomes of an item are the same. -/
theorem Reordered.exists_actions {x y : Tree} (h : Reordered x y) {rs : List ItemResult}
    (hread : ItemResult.actionsOfTree? x = some rs) :
    ∃ rs', ItemResult.actionsOfTree? y = some rs' ∧ rs'.Perm rs := by
  cases h with
  | @item ms ms' hnames h =>
      obtain ⟨results, hresults, rfl⟩ := ItemResult.actionsOfTree?_eq_some_iff.mp hread
      obtain ⟨results', hresults', hperm⟩ := perm_mapM h hresults
      have hkeys : (Table.keys results).Nodup := by
        have hnamed : ms.map Prod.fst = results.map fun p => some p.1 :=
          map_eq_of_forall₂ (mapM_eq_some_iff.mp hresults) fun m p hp =>
            (ItemResult.action?_eq_some_iff.mp hp).1
        rw [hnamed] at hnames
        exact List.Nodup.of_map some (by rwa [Table.keys, List.map_map])
      have hkeys' : (Table.keys results').Nodup := (hperm.map Prod.fst).nodup_iff.mpr hkeys
      refine ⟨_, ItemResult.actionsOfTree?_eq_some_iff.mpr ⟨results', hresults', rfl⟩, ?_⟩
      exact ((Table.ofList_perm hkeys').trans (hperm.trans (Table.ofList_perm hkeys).symm)).map _
  | @outcome fs fs' name ms h =>
      have hsame : ItemResult.ofTree? (.object fs) = ItemResult.ofTree? (.object fs') := by
        rw [ItemResult.ofTree?, ItemResult.ofTree?, record?_perm h]
      have haction :
          ItemResult.action? (name, .object fs) = ItemResult.action? (name, .object fs') := by
        simp only [ItemResult.action?, hsame]
      obtain ⟨results, hresults, rfl⟩ := ItemResult.actionsOfTree?_eq_some_iff.mp hread
      rw [List.mapM_cons, haction, ← List.mapM_cons] at hresults
      have hread' := ItemResult.actionsOfTree?_eq_some_iff.mpr ⟨results, hresults, rfl⟩
      exact ⟨_, hread', List.Perm.refl _⟩

/-- However often an item was written in another order. -/
theorem exists_actions_of_reordered {x y : Tree} (h : Relation.ReflTransGen Reordered x y)
    {rs : List ItemResult} (hread : ItemResult.actionsOfTree? x = some rs) :
    ∃ rs', ItemResult.actionsOfTree? y = some rs' ∧ rs'.Perm rs := by
  induction h with
  | refl => exact ⟨rs, hread, List.Perm.refl _⟩
  | tail _ hlast ih =>
      obtain ⟨rs', hrs', hperm⟩ := ih
      obtain ⟨rs'', hrs'', hperm'⟩ := hlast.exists_actions hrs'
      exact ⟨rs'', hrs'', hperm'.trans hperm⟩

theorem exists_items_of_reordered {xs ys : List Tree}
    (h : List.Forall₂ (Relation.ReflTransGen Reordered) xs ys) {items : List (List ItemResult)}
    (hread : xs.mapM ItemResult.actionsOfTree? = some items) :
    ∃ items', ys.mapM ItemResult.actionsOfTree? = some items' ∧
      items'.flatten.Perm items.flatten := by
  simp only [mapM_eq_some_iff] at hread ⊢
  induction h generalizing items with
  | nil => exact ⟨items, hread, List.Perm.refl _⟩
  | cons hitem _ ih =>
      cases hread with
      | cons hrs hrest =>
          obtain ⟨rs', hrs', hperm⟩ := exists_actions_of_reordered hitem hrs
          obtain ⟨items', hitems', hflatten⟩ := ih hrest
          exact ⟨rs' :: items', .cons hrs' hitems', hperm.append hflatten⟩

/-! ### What is reported -/

/-- The text of a reply that says that something failed, with its items. -/
def Flagged (t : Tree) (xs : List Tree) : Prop :=
  record? ["errors", "items"] t = some [some (.bool true), some (.array xs)]

/-- The identifiers that are reported of a reply are those that it rejects, and these are listed in one
way only. -/
structure ListedOnce (reply : BulkReply) : Prop where
  /-- In ascending order, and so each of them once. -/
  ascending : reply.failedIds.Pairwise (· < ·)
  /-- Of all outcomes with an error or with a status from 300, as far as they can be read. -/
  mem_iff : ∀ i, i ∈ reply.failedIds ↔ ∃ r ∈ reply.items.flatten,
    (r.error.isSome = true ∨ 300 ≤ r.status) ∧ EntityId.ofText? r.id = some i
  /-- However the outcomes are put. -/
  restated : ∀ items, Relation.EqvGen Restated reply.items items →
    BulkReply.failedIds ⟨reply.errors, items⟩ = reply.failedIds
  /-- In whatever order the members of items are written. -/
  reordered : ∀ t t' xs xs', Flagged t xs → Flagged t' xs' →
    List.Forall₂ (Relation.ReflTransGen Reordered) xs xs' → BulkReply.ofTree? t = some reply →
    ∃ reply', BulkReply.ofTree? t' = some reply' ∧ reply'.failedIds = reply.failedIds
  /-- Of a write to two indices, whatever one or the other rejects. -/
  either : ∀ live target, reply.items.Perm (live ++ target) → ∀ i, i ∈ reply.failedIds ↔
    i ∈ BulkReply.failedIds ⟨reply.errors, live⟩ ∨ i ∈ BulkReply.failedIds ⟨reply.errors, target⟩

/-- **Rejected identifiers are listed in one way**, whatever the reply. -/
theorem failedIds_listedOnce {reply : BulkReply} (h : reply.errors = true) : ListedOnce reply where
  ascending := sorted_failedIds reply
  mem_iff i := mem_failedIds.trans (and_iff_right h)
  restated items hitems := (failedIds_restated hitems).symm
  reordered t t' xs xs' ht ht' hxs hread := by
    obtain ⟨items, hitems, rfl⟩ := (BulkReply.ofTree?_eq_some_iff ht).mp hread
    obtain ⟨items', hitems', hperm⟩ := exists_items_of_reordered hxs hitems
    refine ⟨_, (BulkReply.ofTree?_eq_some_iff ht').mpr ⟨items', hitems', rfl⟩, ?_⟩
    refine BulkReply.failedIds_eq rfl fun i => ?_
    simp only [BulkReply.Rejects, hperm.mem_iff]
  either live target hperm i := by
    simp only [mem_failedIds, BulkReply.Rejects, h, true_and, hperm.flatten.mem_iff,
      List.flatten_append, List.mem_append, or_and_right, exists_or]

/-- Two documents were written to two indices.  The first is rejected by the second index only, which
spells it in capitals and braces, the other by the first index only; and an outcome for nobody is passed
over.  Whichever index answers first, both are reported, and in ascending order. -/
theorem failedIds_listedOnce_twofold :
    let live : List (List ItemResult) := [
      [⟨"00000000-0000-0000-0000-00000000000b", 400, none⟩],
      [⟨"00000000-0000-0000-0000-00000000000a", 201, none⟩]]
    let target : List (List ItemResult) := [
      [⟨"00000000-0000-0000-0000-00000000000b", 200, none⟩],
      [⟨"\x7b00000000-0000-0000-0000-00000000000A\x7d", 200, some (.string "read-only")⟩],
      [⟨"nobody", 503, none⟩]]
    let reply : BulkReply := ⟨true, live ++ target⟩
    reply.errors = true ∧ ListedOnce reply ∧ reply.failedIds = [⟨.ofNat 0xa⟩, ⟨.ofNat 0xb⟩] ∧
      BulkReply.failedIds ⟨true, target ++ live⟩ = [⟨.ofNat 0xa⟩, ⟨.ofNat 0xb⟩] := by
  intro live target reply
  have hlisted : ListedOnce reply := failedIds_listedOnce rfl
  have hfailed : reply.failedIds = [⟨.ofNat 0xa⟩, ⟨.ofNat 0xb⟩] := by decide +kernel
  have hswapped := hlisted.restated (target ++ live) (.rel _ _ (.items List.perm_append_comm))
  exact ⟨rfl, hlisted, hfailed, hswapped.trans hfailed⟩

end Outbox.Search
