import Mathlib.Data.List.Sort
import Outbox.Proofs.Action
import Outbox.Proofs.Table.Order
import Outbox.Search.Client

/-!
# What the client of the search index makes of a reply

A call sends one request, with its retries, and goes by the reply that it gets in the end.

* `exec_sendFrom`, `retry_induction` — one attempt, and the next ones;
* `exec_sendFrom_of_success` — a success ends the retries;
* `exec_writeBulk` — a write goes by `BulkReply.failedIds`;
* `mem_failedIds` — which are the readable identifiers of rejected items, if the reply says that
  something failed;
* `failedIds_ext` — and which they are is all there is to them.
-/

namespace Outbox.Search

variable {σ : Type}

namespace Client

/-! ### Sending -/

/-- **Attempts.**  A passing failure is followed by a wait and the next attempt while retries are
left, and anything else is the outcome. -/
theorem exec_sendFrom (policy : RetryPolicy) (t : Transport σ) (request : Request) (retry : UInt32)
    (s : σ) :
    (sendFrom policy t request retry).exec s = match (attempt t request).exec s with
      | (.ok body, s') => (.ok body, s')
      | (.error e, s') =>
        if retry < policy.maxRetries ∧ e.isTransient = true then
          (sendFrom policy t request (retry + 1)).exec (t.wait (policy.delay retry) s')
        else (.error e, s') := by
  rw [sendFrom, Action.exec_bind, Action.exec_attempt]
  rcases (attempt t request).exec s with ⟨e | body, s'⟩
  · dsimp only
    by_cases hleft : retry < policy.maxRetries
    · rw [dif_pos hleft]
      cases htransient : e.isTransient with
      | true =>
          rw [if_pos rfl, if_pos ⟨hleft, rfl⟩]
          rfl
      | false =>
          rw [if_neg Bool.false_ne_true, if_neg fun h => Bool.false_ne_true h.2]
          rfl
    · rw [dif_neg hleft, if_neg fun h => hleft h.1]
      rfl
  · rfl

/-- **Induction over the attempts**: every retry that is left comes before this one. -/
theorem retry_induction (policy : RetryPolicy) {motive : UInt32 → Prop}
    (step : ∀ retry, (retry < policy.maxRetries → motive (retry + 1)) → motive retry)
    (retry : UInt32) : motive retry := by
  generalize hleft : policy.maxRetries.toNat - retry.toNat = left
  induction left using Nat.strongRecOn generalizing retry with
  | ind left ih =>
      refine step retry fun hlt => ih _ ?_ (retry + 1) rfl
      have hnat : retry.toNat < policy.maxRetries.toNat := UInt32.lt_iff_toNat_lt.1 hlt
      have hmax := policy.maxRetries.toNat_lt
      have hone : (1 : UInt32).toNat = 1 := rfl
      rw [UInt32.toNat_add, hone, Nat.mod_eq_of_lt (by omega)]
      omega

theorem exec_attempt_of_success {t : Transport σ} {request : Request} {s s' : σ} {status : Nat}
    {bytes : List UInt8} (hexchange : t.exchange request s = (.reply status bytes true, s'))
    (hstatus : Exchange.isSuccess status = true) :
    (attempt t request).exec s = (.ok (some bytes), s') := by
  rw [attempt, Action.exec_ofFun, hexchange]
  show (Exchange.outcome _ _, s') = _
  rw [Exchange.outcome, hstatus]
  rfl

/-- A success is not sent again. -/
theorem exec_sendFrom_of_success {policy : RetryPolicy} {t : Transport σ} {request : Request}
    {retry : UInt32} {s s' : σ} {body : SuccessBody}
    (h : (attempt t request).exec s = (.ok body, s')) :
    (sendFrom policy t request retry).exec s = (.ok body, s') := by
  rw [exec_sendFrom, h]

/-- A path of the index can be asked for: it makes an address that can be reached, and the key can
stand in a header. -/
structure Reaches (s : Settings) (path : String) (url : Url) : Prop where
  address : Url.ofText (s.address path) = .ok url
  scheme : canReach url = true
  key : (s.apiKey.getD "").toList.all Settings.isHeaderChar = true

/-- Whether a path can be asked for. -/
def reachable (s : Settings) (path : String) : Bool :=
  match Url.ofText (s.address path) with
  | .ok url => canReach url && (s.apiKey.getD "").toList.all Settings.isHeaderChar
  | .error _ => false

theorem reaches_of_reachable {settings : Settings} {path : String}
    (h : reachable settings path = true) : ∃ url, Reaches settings path url := by
  rw [reachable] at h
  split at h
  · rename_i url hurl
    rw [Bool.and_eq_true] at h
    exact ⟨url, hurl, h.1, h.2⟩
  · cases h

theorem exec_send_of_reaches {settings : Settings} {t : Transport σ} {path : String} {url : Url}
    (h : Reaches settings path url) (request : Url → Request) (s : σ) :
    (send settings t path request).exec s = (sendFrom settings.retry t (request url) 0).exec s := by
  rw [send, h.address]
  dsimp only
  rw [h.scheme, h.key]
  rfl

/-- **One exchange is enough.**  A success that comes back for the first request is the answer. -/
theorem exec_send_of_success {settings : Settings} {t : Transport σ} {path : String} {url : Url}
    (h : Reaches settings path url) {request : Url → Request} {s s' : σ} {status : Nat}
    {bytes : List UInt8} (hexchange : t.exchange (request url) s = (.reply status bytes true, s'))
    (hstatus : Exchange.isSuccess status = true) :
    (send settings t path request).exec s = (.ok (some bytes), s') := by
  rw [exec_send_of_reaches h,
    exec_sendFrom_of_success (exec_attempt_of_success hexchange hstatus)]

/-! ### Writing -/

/-- The reply to a write: what came back in the end, if it is a success whose body came whole and can
be read. -/
def replied (settings : Settings) (t : Transport σ) (items : List Item) (s : σ) : Option BulkReply :=
  match ((send settings t Settings.bulkPath (.bulk settings items)).exec s).1 with
  | .ok body => body.bind fun bytes => (Json.readBytes bytes).bind BulkReply.ofTree?
  | .error _ => none

/-- What a write comes to by a reply. -/
def judged (reply : BulkReply) : Except Error Unit :=
  match reply.failedIds with
  | [] => .ok ()
  | failed => .error (.partialBatchFailure failed)

/-- A body that can be read is read. -/
theorem exec_read {α : Type} {ofTree? : Json.Tree → Option α} {body : SuccessBody} {a : α}
    (h : (body.bind fun bytes => (Json.readBytes bytes).bind ofTree?) = some a) (s : σ) :
    (read ofTree? body : Action σ α).exec s = (.ok a, s) := by
  rw [read, h]
  rfl

/-- **A write goes by its reply.** -/
theorem exec_writeBulk {settings : Settings} {t : Transport σ} {items : List Item} {s s' : σ}
    {body : SuccessBody} {reply : BulkReply} (hitems : items ≠ [])
    (hsend : (send settings t Settings.bulkPath (.bulk settings items)).exec s = (.ok body, s'))
    (hread : (body.bind fun bytes => (Json.readBytes bytes).bind BulkReply.ofTree?) = some reply) :
    (writeBulk settings t items).exec s = (judged reply, s') := by
  have hempty : items.isEmpty = false := List.isEmpty_eq_false_iff.mpr hitems
  rw [writeBulk, hempty]
  show (_ >>= _ : Action σ Unit).exec s = _
  rw [Action.exec_bind_ok hsend, Action.exec_bind_ok (exec_read hread s'), judged]
  cases reply.failedIds with
  | nil => rfl
  | cons i failed => rfl

theorem writeBulk_of_replied {settings : Settings} {t : Transport σ} {items : List Item} {s : σ}
    {reply : BulkReply} (hitems : items ≠ []) (h : replied settings t items s = some reply) :
    ((writeBulk settings t items).exec s).1 = judged reply := by
  rw [replied] at h
  rcases hsend : (send settings t Settings.bulkPath (.bulk settings items)).exec s with ⟨e | body, s'⟩
  · rw [hsend] at h
    cases h
  · rw [hsend] at h
    rw [exec_writeBulk hitems hsend h]

end Client

/-! ### Rejected items -/

theorem ItemResult.rejected_iff {r : ItemResult} :
    r.rejected = true ↔ r.error.isSome = true ∨ 300 ≤ r.status := by
  rw [rejected, Bool.or_eq_true, decide_eq_true_iff]

/-- The reply says of an identifier that it was rejected: an outcome that is for it has an error, or a
status from 300. -/
def BulkReply.Rejects (reply : BulkReply) (i : EntityId) : Prop :=
  ∃ r ∈ reply.items.flatten, (r.error.isSome = true ∨ 300 ≤ r.status) ∧ EntityId.ofText? r.id = some i

/-- **Rejected identifiers.**  They count if the reply says that something failed. -/
theorem mem_failedIds {reply : BulkReply} {i : EntityId} :
    i ∈ reply.failedIds ↔ reply.errors = true ∧ reply.Rejects i := by
  have hrejected : i ∈ reply.rejectedIds ↔ reply.Rejects i := by
    simp only [BulkReply.rejectedIds, BulkReply.Rejects, List.mem_filterMap, List.mem_filter, and_assoc,
      ItemResult.rejected_iff]
  rw [BulkReply.failedIds]
  cases reply.errors with
  | false => simp
  | true =>
      rw [if_pos rfl, Table.mem_keys_ofList, Table.keys, List.map_map, ← hrejected]
      simp [Function.comp_def]

/-- They are listed in ascending order. -/
theorem sorted_failedIds (reply : BulkReply) : reply.failedIds.Pairwise (· < ·) := by
  rw [BulkReply.failedIds]
  split
  · exact Table.sorted_ofList EntityId.ranked _
  · exact List.Pairwise.nil

/-- Which they are is all there is to them. -/
theorem failedIds_ext {reply reply' : BulkReply}
    (h : ∀ i, i ∈ reply.failedIds ↔ i ∈ reply'.failedIds) : reply.failedIds = reply'.failedIds := by
  have hirrefl : Std.Irrefl (α := EntityId) (· < ·) := ⟨fun i => Nat.lt_irrefl i.uuid.value⟩
  have hantisymm : Std.Antisymm (α := EntityId) (· < ·) :=
    ⟨fun i j hij hji => absurd (Nat.lt_trans hij hji) (Nat.lt_irrefl i.uuid.value)⟩
  exact (sorted_failedIds reply).eq_of_mem_iff (sorted_failedIds reply') h

end Outbox.Search
