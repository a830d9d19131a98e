import Outbox.Proofs.Search.Retry
import Outbox.Proofs.Search.Server

/-!
# Sending a write again

A write is sent again after a failure that may pass, and nobody knows how much of it was carried out
before.  Whatever it was, the whole body overwrites it: every place that was touched is written again,
in the same order.

* `Holdings.foldl_put_of_subset` — of what was written before, nothing is left that the body writes;
* `Overwrites` — a server that carries out what it takes, and any part of what it fails at;
* `Again.written`, `Round.written` — from round to round, carrying out the body comes to the same;
* `resent_write` — a write that succeeds was carried out once, as far as one can see.
-/

namespace Outbox.Search

open Outbox.Json

/-! ### Writing over what was written -/

namespace Holdings

/-- Carries out all writes, in order. -/
def putAll (h : Holdings) (ws : List Write) : Holdings := ws.foldl Holdings.put h

/-- The same is held wherever none of some writes goes. -/
def SameBeside (ws : List Write) (h h' : Holdings) : Prop :=
  ∀ index id, (∀ w ∈ ws, ¬(index = w.index ∧ id = w.id)) → h index id = h' index id

variable {w : Write} {part ws : List Write} {h h' : Holdings}

/-- A place that is written does not show any more what it held. -/
theorem SameBeside.put (hsame : SameBeside (w :: ws) h h') : SameBeside ws (h.put w) (h'.put w) := by
  intro index id hws
  rw [Holdings.put, Holdings.put]
  by_cases hw : index = w.index ∧ id = w.id
  · rw [if_pos hw, if_pos hw]
  · rw [if_neg hw, if_neg hw]
    exact hsame index id (List.forall_mem_cons.mpr ⟨hw, hws⟩)

/-- What is held beside the places that all get written is all that counts. -/
theorem SameBeside.putAll_eq (hsame : SameBeside ws h h') : h.putAll ws = h'.putAll ws := by
  induction ws generalizing h h' with
  | nil =>
      funext index id
      exact hsame index id (List.forall_mem_nil _)
  | cons w ws ih => exact ih hsame.put

theorem sameBeside_putAll (hpart : ∀ w ∈ part, w ∈ ws) : SameBeside ws (h.putAll part) h := by
  induction part generalizing h with
  | nil => exact fun _ _ _ => rfl
  | cons w part ih =>
      obtain ⟨hw, hpart⟩ := List.forall_mem_cons.mp hpart
      intro index id hws
      exact (ih (h := h.put w) hpart index id hws).trans (if_neg (hws w hw))

/-- **A part of some writes is overwritten by all of them**, in whatever order it was carried out and
how often. -/
theorem putAll_putAll_of_subset (hpart : ∀ w ∈ part, w ∈ ws) (h : Holdings) :
    (h.putAll part).putAll ws = h.putAll ws :=
  (sameBeside_putAll hpart).putAll_eq

end Holdings

/-! ### The server -/

/-- A request that writes. -/
structure IsWrite (settings : Settings) (request : Request) (ws : List Write) : Prop where
  method : request.method = "POST"
  address : Url.ofText (settings.address Settings.bulkPath) = .ok request.url
  type : request.contentType = "application/x-ndjson"
  body : writes? request.body = some ws

/-- The reply to a write that can be read, and by which nothing of it was rejected. -/
def Takes (body : SuccessBody) : Prop :=
  ∃ reply, (body.bind fun bytes => (readBytes bytes).bind BulkReply.ofTree?) = some reply ∧
    reply.failedIds = []

/-- **A server that overwrites.**  It carries out a write in order when it takes it, and it may carry
out any part of a write before a failure that may pass. -/
structure Overwrites {σ : Type} (settings : Settings) (t : Transport σ) (held : σ → Holdings) : Prop
    where
  taken : ∀ request s ws body, IsWrite settings request ws →
    (t.exchange request s).1.outcome request.url.text = .ok body → Takes body →
    held (t.exchange request s).2 = (held s).putAll ws
  failed : ∀ request s ws, IsWrite settings request ws →
    (t.exchange request s).1.isTransient = true →
    ∃ part, (∀ w ∈ part, w ∈ ws) ∧ held (t.exchange request s).2 = (held s).putAll part
  wait : ∀ d s, held (t.wait d s) = held s

/-! ### From round to round -/

namespace Client

variable {σ : Type} {settings : Settings} {t : Transport σ} {held : σ → Holdings} {request : Request}
  {ws : List Write} {policy : RetryPolicy} {s s' : σ}

/-- **One round** leaves behind what the body overwrites. -/
theorem Again.written (hserver : Overwrites settings t held) (hwrite : IsWrite settings request ws)
    {round next : UInt32 × σ} (h : Again policy t request round next) :
    (held next.2).putAll ws = (held round.2).putAll ws := by
  cases h with
  | @intro retry s s' e failed transient left =>
      obtain ⟨houtcome, rfl⟩ := Prod.mk.inj (show ((t.exchange request s).1.outcome request.url.text,
        (t.exchange request s).2) = (.error e, s') from failed)
      have htransient := (Exchange.isTransient_of_outcome houtcome).symm.trans transient
      obtain ⟨part, hpart, hheld⟩ := hserver.failed request s ws hwrite htransient
      show (held (t.wait _ _)).putAll ws = (held s).putAll ws
      rw [hserver.wait, hheld, Holdings.putAll_putAll_of_subset hpart]

/-- **Any number of rounds.** -/
theorem Round.written (hserver : Overwrites settings t held) (hwrite : IsWrite settings request ws)
    {round : UInt32 × σ} (h : Round policy t request s round) :
    (held round.2).putAll ws = (held s).putAll ws := by
  induction h with
  | refl => rfl
  | tail _ hagain ih => exact (hagain.written hserver hwrite).trans ih

/-- **A request that is taken in the end** was carried out once, as far as one can see. -/
theorem held_sendFrom (hserver : Overwrites settings t held) (hwrite : IsWrite settings request ws)
    {body : SuccessBody} (h : (sendFrom policy t request 0).exec s = (.ok body, s'))
    (htakes : Takes body) : held s' = (held s).putAll ws := by
  obtain ⟨round, hround, hlast⟩ := exists_last_round policy t request s
  rw [hround.exec, exec_sendFrom_of_last hlast] at h
  obtain ⟨houtcome, rfl⟩ := Prod.mk.inj (show ((t.exchange request round.2).1.outcome
    request.url.text, (t.exchange request round.2).2) = (.ok body, s') from h)
  rw [hserver.taken request round.2 ws body hwrite houtcome htakes, hround.written hserver hwrite]

/-- A write that succeeds was taken. -/
theorem of_exec_writeBulk {items : List Item} (hitems : items ≠ [])
    (h : (writeBulk settings t items).exec s = (.ok (), s')) :
    ∃ body, (send settings t Settings.bulkPath (.bulk settings items)).exec s = (.ok body, s') ∧
      Takes body := by
  rw [writeBulk, List.isEmpty_eq_false_iff.mpr hitems] at h
  replace h : (_ >>= _ : Action σ Unit).exec s = _ := h
  cases hsend : (send settings t Settings.bulkPath (.bulk settings items)).exec s with
  | mk r s₁ =>
      cases r with
      | error e =>
          rw [Action.exec_bind_error hsend] at h
          cases h
      | ok body =>
          rw [Action.exec_bind_ok hsend] at h
          cases hread : body.bind fun bytes => (readBytes bytes).bind BulkReply.ofTree? with
          | none =>
              rw [Action.exec_bind, read, hread] at h
              cases h
          | some reply =>
              rw [Action.exec_bind_ok (exec_read hread s₁)] at h
              cases hfailed : reply.failedIds with
              | cons i failed =>
                  rw [hfailed] at h
                  cases h
              | nil =>
                  rw [hfailed] at h
                  cases h
                  exact ⟨body, rfl, reply, hread, hfailed⟩

end Client

/-! ### Writes -/

/-- What is held after the items of a batch were written once: by the body that says so, as a server
reads it. -/
def WrittenOnce (settings : Settings) (items : List Item) (h h' : Holdings) : Prop :=
  ∃ ws, writes? (String.ofList (Request.bulkBody settings.writeTargets items)) = some ws ∧
    h' = h.putAll ws

section

variable {σ : Type} {settings : Settings} {t : Transport σ} {held : σ → Holdings}

theorem writtenOnce_writeBulk (hserver : Overwrites settings t held) (items : List Item) {s s' : σ}
    (h : (Client.writeBulk settings t items).exec s = (.ok (), s')) :
    WrittenOnce settings items (held s) (held s') := by
  have hbody := writes?_bulkBody settings.writeTargets items
  refine ⟨_, hbody, ?_⟩
  by_cases hitems : items = []
  · subst hitems
    have hnothing : addressed settings.writeTargets [] = [] := by simp [addressed]
    rw [hnothing]
    cases h
    rfl
  · obtain ⟨body, hsend, htakes⟩ := Client.of_exec_writeBulk hitems h
    by_cases hurl : ∃ url, Client.Reaches settings Settings.bulkPath url
    · obtain ⟨url, hurl⟩ := hurl
      rw [Client.exec_send_of_reaches hurl] at hsend
      have hwrite : IsWrite settings (.bulk settings items url)
          ((addressed settings.writeTargets items).map Write.ofItem) :=
        ⟨rfl, hurl.address, rfl, hbody⟩
      exact Client.held_sendFrom hserver hwrite hsend htakes
    · rw [Client.exec_send_of_unreachable (not_exists.mp hurl)] at hsend
      cases hsend

/-- **Sending a write again does no harm.** -/
theorem resent_write (hserver : Overwrites settings t held) (s : σ) :
    (∀ docs s', ((Client.backend settings t).upsert docs).exec s = (.ok (), s') →
      WrittenOnce settings (docs.map fun d => (d.id, d.source)) (held s) (held s')) ∧
    (∀ ids s', ((Client.backend settings t).tombstone ids).exec s = (.ok (), s') →
      WrittenOnce settings (ids.map fun i => (i, tombstoneSource)) (held s) (held s')) := by
  refine ⟨fun docs s' h => ?_, fun ids s' h => ?_⟩
  · rw [Client.backend] at h
    exact writtenOnce_writeBulk hserver _ h
  · rw [Client.backend] at h
    exact writtenOnce_writeBulk hserver _ h

end

/-! ### A server that fails -/

/-- What a server holds, and for each failure to come, which of the writes, by their places in the body,
are carried out before it. -/
structure Flaky where
  held : Holdings
  failures : List (List Nat)

namespace Flaky

/-- Serves a write, or fails at it after some of it. -/
def exchange (request : Request) (s : Flaky) : Exchange × Flaky :=
  match writes? request.body with
  | none => (Shelf.refusal, s)
  | some ws =>
    match s.failures with
    | [] => (Shelf.success (Shelf.bulkReply [] ws), ⟨s.held.putAll ws, []⟩)
    | part :: failures =>
      (.reply 503 [] true, ⟨s.held.putAll (part.filterMap fun i => ws[i]?), failures⟩)

def transport : Transport Flaky where
  exchange := exchange
  wait _ s := s

/-- It overwrites, whatever the settings are. -/
theorem overwrites (settings : Settings) : Overwrites settings transport held := by
  constructor
  case taken =>
    intro request s ws body hwrite houtcome htakes
    show held (exchange request s).2 = _
    replace houtcome : (exchange request s).1.outcome _ = _ := houtcome
    rw [exchange, hwrite.body] at houtcome ⊢
    cases hfailures : s.failures with
    | nil => rfl
    | cons part failures =>
        rw [hfailures] at houtcome
        cases houtcome
  case failed =>
    intro request s ws hwrite htransient
    show ∃ part, _ ∧ held (exchange request s).2 = _
    replace htransient : (exchange request s).1.isTransient = true := htransient
    rw [exchange, hwrite.body] at htransient ⊢
    cases hfailures : s.failures with
    | nil =>
        rw [hfailures] at htransient
        cases htransient
    | cons part failures =>
        refine ⟨part.filterMap fun i => ws[i]?, fun w hw => ?_, rfl⟩
        obtain ⟨i, -, hi⟩ := List.mem_filterMap.mp hw
        exact List.mem_of_getElem? hi
  case wait => exact fun _ _ => rfl

variable {settings : Settings} {request : Request} {ws : List Write}

/-- **Attempts at it** get through in the end, if there are not more failures than retries. -/
theorem exec_sendFrom (policy : RetryPolicy) (hbody : writes? request.body = some ws)
    (failures : List (List Nat)) (retry : UInt32) (h : Holdings)
    (hleft : retry.toNat + failures.length ≤ policy.maxRetries.toNat) :
    ∃ s', (Client.sendFrom policy transport request retry).exec ⟨h, failures⟩
      = (.ok (some (Text.Utf8.encode (Shelf.bulkReply [] ws).text)), s') := by
  induction failures generalizing retry h with
  | nil =>
      have hexchange : transport.exchange request ⟨h, []⟩
          = (.reply 200 (Text.Utf8.encode (Shelf.bulkReply [] ws).text) true, ⟨h.putAll ws, []⟩) := by
        show exchange request _ = _
        rw [exchange, hbody]
        rfl
      exact ⟨_, Client.exec_sendFrom_of_success (Client.exec_attempt_of_success hexchange rfl)⟩
  | cons part failures ih =>
      rw [List.length_cons] at hleft
      have hexchange : exchange request ⟨h, part :: failures⟩
          = (.reply 503 [] true, ⟨h.putAll (part.filterMap fun i => ws[i]?), failures⟩) := by
        rw [exchange, hbody]
      have hattempt : (Client.attempt transport request).exec ⟨h, part :: failures⟩
          = (.error (.index 503 (Exchange.errorText [] true)),
            ⟨h.putAll (part.filterMap fun i => ws[i]?), failures⟩) := by
        show (Exchange.outcome _ (exchange request _).1, (exchange request _).2) = _
        rw [hexchange]
        rfl
      have hagain : Client.Again policy transport request (retry, ⟨h, part :: failures⟩)
          (retry + 1, ⟨h.putAll (part.filterMap fun i => ws[i]?), failures⟩) :=
        .intro hattempt rfl (UInt32.lt_iff_toNat_lt.2 (by omega))
      have hcounter : (retry + 1).toNat = retry.toNat + 1 := hagain.counter.1
      obtain ⟨s', hs'⟩ := ih (retry + 1) (h.putAll (part.filterMap fun i => ws[i]?)) (by omega)
      exact ⟨s', hagain.exec.trans hs'⟩

/-- **A write** gets through in the end. -/
theorem exec_writeBulk (hbulk : Client.reachable settings Settings.bulkPath = true)
    {items : List Item} (hitems : items ≠ []) (s : Flaky)
    (hleft : s.failures.length ≤ settings.retry.maxRetries.toNat) :
    ∃ s', (Client.writeBulk settings transport items).exec s = (.ok (), s') := by
  obtain ⟨url, hurl⟩ := Client.reaches_of_reachable hbulk
  obtain ⟨ws, hbody⟩ : ∃ ws, writes? (Request.bulk settings items url).body = some ws :=
    ⟨_, writes?_bulkBody settings.writeTargets items⟩
  obtain ⟨s', hsend⟩ := exec_sendFrom settings.retry hbody s.failures 0 s.held (by simpa using hleft)
  obtain ⟨reply, hreply, hfailed⟩ := (Shelf.bulkAnswer_bulkReply [] ws).exists_reply
  have hnone : reply.failedIds = [] := List.eq_nil_iff_forall_not_mem.mpr fun i hi =>
    List.not_mem_nil ((hfailed i).mp hi).1
  have hread : ((some (Text.Utf8.encode (Shelf.bulkReply [] ws).text) : SuccessBody).bind fun bytes =>
      (readBytes bytes).bind BulkReply.ofTree?) = some reply := by
    rw [Option.bind_some, readBytes_encode, Option.bind_some, hreply]
  refine ⟨s', ?_⟩
  rw [Client.exec_writeBulk hitems ((Client.exec_send_of_reaches hurl _ s).trans hsend) hread,
    Client.judged, hnone]

end Flaky

/-- An index on this machine that is being indexed anew, and is tried three times. -/
def moving : Settings :=
  ⟨"http://localhost:9200", "annotation", none, some "annotation_new", .standard⟩

/-- Two documents of one entity with one of another between them. -/
def repeating : List Document :=
  [⟨⟨.ofNat 1⟩, ⟨0, 0⟩, []⟩, ⟨⟨.ofNat 2⟩, ⟨0, 0⟩, []⟩, ⟨⟨.ofNat 1⟩, ⟨1, 0⟩, []⟩]

/-- Something is held already, and the server fails twice: once after the third write, and once after
the first one for either index. -/
def failing : Flaky := ⟨fun _ _ => some .null, [[2], [0, 3]]⟩

theorem resent_write_failing :
    Overwrites moving Flaky.transport Flaky.held ∧
      ∃ s', ((Client.backend moving Flaky.transport).upsert repeating).exec failing = (.ok (), s') ∧
        WrittenOnce moving (repeating.map fun d => (d.id, d.source)) failing.held s'.held := by
  have hbulk : Client.reachable moving Settings.bulkPath = true := by decide +kernel
  have hserver := Flaky.overwrites moving
  have hok : ∃ s', ((Client.backend moving Flaky.transport).upsert repeating).exec failing
      = (.ok (), s') := by
    rw [Client.backend]
    exact Flaky.exec_writeBulk hbulk (List.cons_ne_nil _ _) failing (by decide)
  obtain ⟨s', hs'⟩ := hok
  exact ⟨hserver, s', hs', (resent_write hserver failing).1 repeating s' hs'⟩

end Outbox.Search
