import Outbox.Entity
import Outbox.Json.Reader
import Outbox.Time.Read

/-!
# Replies of the search index

What is read from the body of a successful reply.  Records are objects, or arrays of their fields in
order; members that nobody asked for are passed over, and a member that is asked for must not
repeat.

From a search come hits, and from them the projection of each document, by identifier
(`Hit.statuses`).  From a bulk request comes the outcome of every item, and from it the identifiers
that were rejected, ascending and each once (`BulkReply.failedIds`).
-/

namespace Outbox.Search

open Outbox.Json Outbox.Time

/-! ### Records -/

/-- The fields of a record: each is there or not, and there at most once. -/
def record? (names : List String) : Tree → Option (List (Option Tree))
  | .object ms =>
    if ms.any fun m => m.1.isNone then none
    else names.mapM fun name =>
      match ms.filter fun m => m.1 == some name with
      | [] => some none
      | [m] => some (some m.2)
      | _ => none
  | .array xs =>
    if xs.length ≤ names.length then
      some (xs.map some ++ List.replicate (names.length - xs.length) none)
    else none
  | _ => none

/-- The text of a string. -/
def text? : Tree → Option String
  | .string s => s
  | _ => none

/-- A flag. -/
def flag? : Tree → Option Bool
  | .bool b => some b
  | _ => none

/-- An array, element by element. -/
def list? {α : Type} (read : Tree → Option α) : Tree → Option (List α)
  | .array xs => xs.mapM read
  | _ => none

/-! ### Searching -/

/-- A document that was found: its identifier as written, its version marker and its flag. -/
structure Hit where
  id : String
  updated : Option String
  deleted : Bool
  deriving DecidableEq

namespace Hit

/-- Reads the part of a source that was asked for. -/
def sourceOfTree? (t : Tree) : Option (Option String × Bool) := do
  match ← record? ["updated", "deleted"] t with
  | [updated, deleted] =>
    let updated ← match updated with
      | none | some .null => some none
      | some t => (text? t).map some
    let deleted ← match deleted with
      | none => some false
      | some t => flag? t
    some (updated, deleted)
  | _ => none

/-- Reads a hit; one without a source has neither version nor flag. -/
def ofTree? (t : Tree) : Option Hit := do
  match ← record? ["_id", "_source"] t with
  | [some id, source] =>
    let id ← text? id
    let (updated, deleted) ← match source with
      | none => some (none, false)
      | some t => sourceOfTree? t
    some ⟨id, updated, deleted⟩
  | _ => none

/-- The hits of a reply. -/
def listOfTree? (t : Tree) : Option (List Hit) := do
  match ← record? ["hits"] t with
  | [some outer] =>
    match ← record? ["hits"] outer with
    | [some inner] => list? ofTree? inner
    | _ => none
  | _ => none

/-- The projection of a hit; a version marker that cannot be read is none. -/
def status (h : Hit) : IndexStatus :=
  ⟨h.updated.bind fun s => readVersion? s.toList, h.deleted⟩

/-- The projections of hits, by identifier; hits whose identifier is none are passed over, and of two
hits for one identifier the later counts. -/
def statuses (hits : List Hit) : Table EntityId IndexStatus :=
  Table.ofList (hits.filterMap fun h => (EntityId.ofText? h.id).map fun e => (e, h.status))

end Hit

/-! ### Bulk requests -/

/-- The outcome of one item. -/
structure ItemResult where
  id : String
  status : Nat
  error : Option Json
  deriving DecidableEq

namespace ItemResult

/-- How deep an error may nest, inside the four levels of a reply around it. -/
def errorDepth : Nat := depthLimit - 4

/-- Reads the outcome of an item. -/
def ofTree? (t : Tree) : Option ItemResult := do
  match ← record? ["_id", "status", "error"] t with
  | [some id, some status, error] =>
    let id ← text? id
    let status ← match status with
      | .numeral n => n.integer?
      | _ => none
    if 0 ≤ status ∧ status < 65536 then
      let error ← match error with
        | none | some .null => some none
        | some t => (t.value? errorDepth).map some
      some ⟨id, status.toNat, error⟩
    else none
  | _ => none

/-- Reads an object of outcomes, one for each kind of action; of two with one name the later
counts. -/
def actionsOfTree? : Tree → Option (List ItemResult)
  | .object ms => do
    let results ← ms.mapM fun m => do
      let name ← m.1
      let result ← ofTree? m.2
      some (name, result)
    some ((Table.ofList results).map Prod.snd)
  | _ => none

/-- Whether the index says that the item was not written. -/
def rejected (r : ItemResult) : Bool := r.error.isSome || 300 ≤ r.status

end ItemResult

/-- The reply to a bulk request: whether anything failed, and the outcomes. -/
structure BulkReply where
  errors : Bool
  items : List (List ItemResult)
  deriving DecidableEq

namespace BulkReply

/-- Reads the reply to a bulk request. -/
def ofTree? (t : Tree) : Option BulkReply := do
  match ← record? ["errors", "items"] t with
  | [some errors, items] =>
    let errors ← flag? errors
    let items ← match items with
      | none => some []
      | some t => list? ItemResult.actionsOfTree? t
    some ⟨errors, items⟩
  | _ => none

/-- The identifiers of rejected items as far as they are identifiers, in any order. -/
def rejectedIds (r : BulkReply) : List EntityId :=
  (r.items.flatten.filter ItemResult.rejected).filterMap fun i => EntityId.ofText? i.id

/-- The rejected identifiers, ascending and each once; none if the reply says that nothing failed. -/
def failedIds (r : BulkReply) : List EntityId :=
  if r.errors then Table.keys (Table.ofList (r.rejectedIds.map fun i => (i, ()))) else []

end BulkReply

end Outbox.Search
