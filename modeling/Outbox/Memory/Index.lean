import Outbox.Backend

/-!
# The search index in memory

Documents and tombstones by identifier, and a record of every write call.  Single identifiers can be
rejected: the rest of their batch is written all the same, and the call fails with the rejected ones
in the order of the batch.  The index can be taken down as a whole.
-/

namespace Outbox.Memory

/-- What the index holds for an identifier. -/
inductive Stored
  | live (document : Document)
  | tombstone
  deriving DecidableEq

/-- The projection of what is held. -/
def Stored.status : Stored → IndexStatus
  | .live d => ⟨some d.updated, false⟩
  | .tombstone => ⟨none, true⟩

/-- The contents of the index, the calls that wrote them, and what makes calls fail. -/
structure Index where
  documents : Table EntityId Stored
  /-- The identifiers of each call that wrote documents. -/
  upserts : List (List EntityId)
  /-- The identifiers of each call that wrote tombstones. -/
  tombstones : List (List EntityId)
  rejected : List EntityId
  available : Bool
  deriving DecidableEq

namespace Index

/-- Nothing written yet. -/
def empty : Index := ⟨[], [], [], [], true⟩

/-- Holds a document without a call. -/
def seed (x : Index) (d : Document) : Index :=
  { x with documents := Table.insert x.documents d.id (.live d) }

/-- Rejects an identifier from now on. -/
def reject (x : Index) (id : EntityId) : Index := { x with rejected := id :: x.rejected }

/-- Takes the index down, or brings it back. -/
def setAvailable (x : Index) (available : Bool) : Index := { x with available := available }

/-- What the index holds for an identifier. -/
def stored? (x : Index) (id : EntityId) : Option Stored := Table.find? x.documents id

/-- The number of write calls. -/
def writeCount (x : Index) : Nat := x.upserts.length + x.tombstones.length

/-- The projections of what is held. -/
def statuses (x : Index) (ids : List EntityId) : Table EntityId IndexStatus :=
  Table.ofList (ids.filterMap fun i => (x.stored? i).map fun s => (i, s.status))

/-- Writes the entries whose identifiers are not rejected. -/
def store (x : Index) (entries : List (EntityId × Stored)) : Index :=
  { x with
    documents := (entries.filter fun e => e.1 ∉ x.rejected).foldl
      (fun t e => Table.insert t e.1 e.2) x.documents }

/-- The rejected ones among the identifiers of a batch. -/
def refused (x : Index) (ids : List EntityId) : List EntityId := ids.filter fun i => i ∈ x.rejected

/-- A call that fails while the index is down. -/
def whileUp {α : Type} (a : Action Index α) : Action Index α :=
  Action.ofFun fun x =>
    if x.available then a.exec x else (.error (.index 503 "service unavailable"), x)

/-- Writes a batch, and fails if any of it was rejected. -/
def writeBatch (entries : List (EntityId × Stored)) : Action Index Unit :=
  Action.ofFun fun x =>
    match x.refused (entries.map Prod.fst) with
    | [] => (.ok (), x.store entries)
    | failed => (.error (.partialBatchFailure failed), x.store entries)

/-- The index as the reconciler uses it. -/
def backend : SearchIndex Index where
  statuses ids := whileUp (Action.ofView fun x => .ok (x.statuses ids))
  upsert docs := whileUp do
    Action.change fun x => ((), { x with upserts := x.upserts ++ [docs.map Document.id] })
    writeBatch (docs.map fun d => (d.id, .live d))
  tombstone ids := whileUp do
    Action.change fun x => ((), { x with tombstones := x.tombstones ++ [ids] })
    writeBatch (ids.map fun i => (i, .tombstone))

end Index

end Outbox.Memory
