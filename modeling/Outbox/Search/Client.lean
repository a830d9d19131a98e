import Outbox.Backend
import Outbox.Search.Reply
import Outbox.Search.Request
import Outbox.Text.Utf16
import Outbox.Uri
import Outbox.Url.Reader

/-!
# The client of the search index

Sends a request, again after a wait as long as the failure is a passing one and retries are left, and
makes of the reply what the caller asked for.  A bulk write overwrites each document whole, so
sending it again does no harm.

The client works over any `Transport`; what is on the other side is a state of the caller's choice.
-/

namespace Outbox.Search

open Outbox.Time

/-- What comes back for one request. -/
inductive Exchange
  /-- A reply; `complete` says whether the body came whole. -/
  | reply (status : Nat) (body : List UInt8) (complete : Bool)
  /-- The connection closed before the reply. -/
  | dropped
  /-- There was no connection. -/
  | refused
  /-- The reply did not come in time. -/
  | timedOut
  deriving DecidableEq

/-- The way to the index: one exchange, and letting time pass. -/
structure Transport (σ : Type) where
  exchange : Request → σ → Exchange × σ
  wait : Duration → σ → σ

/-- The body of a reply that was a success, if it came whole. -/
abbrev SuccessBody := Option (List UInt8)

namespace Exchange

/-- Whether a status is a success. -/
def isSuccess (status : Nat) : Bool := 200 ≤ status && status < 300

/-- The text of an error reply: nothing if it was cut.  A byte order mark says how the bytes are read,
and is no part of the text. -/
def errorText (body : List UInt8) (complete : Bool) : String :=
  if complete then
    match body with
    | 0xef :: 0xbb :: 0xbf :: rest => Text.Utf8.decodeLossy rest
    | 0xff :: 0xfe :: rest => Text.Utf16.decodeLossy .lowFirst rest
    | 0xfe :: 0xff :: rest => Text.Utf16.decodeLossy .highFirst rest
    | body => Text.Utf8.decodeLossy body
  else ""

/-- What an exchange means for the request at an address. -/
def outcome (url : String) : Exchange → Except Error SuccessBody
  | .reply status body complete =>
    if isSuccess status then .ok (if complete then some body else none)
    else .error (.index status (errorText body complete))
  | .dropped => .error (.http (.dropped url))
  | .refused => .error (.http (.connect url))
  | .timedOut => .error (.http (.timeout url))

end Exchange

namespace Client

variable {σ : Type}

/-- One attempt. -/
def attempt (t : Transport σ) (request : Request) : Action σ SuccessBody :=
  Action.ofFun fun s =>
    let (exchange, s) := t.exchange request s
    (exchange.outcome request.url.text, s)

/-- Attempts from the retry with the given number on. -/
def sendFrom (policy : RetryPolicy) (t : Transport σ) (request : Request) (retry : UInt32) :
    Action σ SuccessBody := do
  match ← (attempt t request).attempt with
  | .ok body => pure body
  | .error e =>
    if h : retry < policy.maxRetries then
      if e.isTransient then do
        Action.change fun s => ((), t.wait (policy.delay retry) s)
        sendFrom policy t request (retry + 1)
      else throw e
    else throw e
  termination_by policy.maxRetries.toNat - retry.toNat
  decreasing_by
    have hlt : retry.toNat < policy.maxRetries.toNat := UInt32.lt_iff_toNat_lt.1 h
    have hmax := policy.maxRetries.toNat_lt
    have hone : (1 : UInt32).toNat = 1 := rfl
    rw [UInt32.toNat_add, hone, Nat.mod_eq_of_lt (by omega)]
    omega

/-- The schemes by which the index is spoken to. -/
def schemes : List String := ["http", "https"]

/-- Whether a request can be sent to a URL: it has one of the schemes, and without the user, who goes
into a header, it is a URI. -/
def canReach (url : Url) : Bool :=
  schemes.contains (String.ofList url.scheme) &&
    Uri.isUri { url with username := [], password := [] }.text

/-- Sends a request to a path.  A key that cannot stand in a header and an address that is none fail
before anything is sent. -/
def send (s : Settings) (t : Transport σ) (path : String) (request : Url → Request) :
    Action σ SuccessBody :=
  match Url.ofText (s.address path) with
  | .error _ => throw (.http .badRequest)
  | .ok url =>
    if canReach url && (s.apiKey.getD "").toList.all Settings.isHeaderChar then
      sendFrom s.retry t (request url) 0
    else throw (.http .badRequest)

/-- Reads the body of a success. -/
def read {α : Type} (ofTree? : Json.Tree → Option α) (body : SuccessBody) : Action σ α :=
  match body.bind fun bytes => (Json.readBytes bytes).bind ofTree? with
  | some a => pure a
  | none => throw (.http .badBody)

/-- The projections of documents; for no identifiers nothing is sent. -/
def statuses (s : Settings) (t : Transport σ) (ids : List EntityId) :
    Action σ (Table EntityId IndexStatus) := do
  if ids.isEmpty then pure []
  else
    let body ← send s t s.searchPath (.search s ids)
    let hits ← read Hit.listOfTree? body
    pure (Hit.statuses hits)

/-- Writes items; for none of them nothing is sent. -/
def writeBulk (s : Settings) (t : Transport σ) (items : List Item) : Action σ Unit := do
  if items.isEmpty then pure ()
  else
    let body ← send s t Settings.bulkPath (.bulk s items)
    let reply ← read BulkReply.ofTree? body
    match reply.failedIds with
    | [] => pure ()
    | failed => throw (.partialBatchFailure failed)

/-- The index as the reconciler uses it. -/
def backend (s : Settings) (t : Transport σ) : SearchIndex σ where
  statuses := statuses s t
  upsert docs := writeBulk s t (docs.map fun d => (d.id, d.source))
  tombstone ids := writeBulk s t (ids.map fun i => (i, tombstoneSource))

end Client

end Outbox.Search
