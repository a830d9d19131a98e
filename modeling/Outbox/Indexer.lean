import Outbox.Backend

/-!
# Indexing entities

Entities in, documents out.  Live entities are enriched and written; identifiers that are gone or
deleted in the store get a tombstone.  Each identifier counts once, where it first stands.  The
identifier and the version of a document always come from the entity, whatever the enrichment did to
them.
-/

namespace Outbox

/-- The elements of a list, each where it first stands. -/
def distinct {α : Type} [DecidableEq α] : List α → List α
  | [] => []
  | x :: xs => x :: (distinct xs).filter (· ≠ x)

namespace Indexer

/-- What is to be written for some identifiers. -/
structure Plan where
  documents : List Document
  tombstoned : List EntityId
  deriving DecidableEq

/-- What was written. -/
structure Outcome where
  upserted : List EntityId
  tombstoned : List EntityId
  deriving DecidableEq

/-- The document of an entity, enriched. -/
def document (enrich : Transform) (e : Entity) : Document :=
  { enrich e (.ofEntity e) with id := e.id, updated := e.updated }

/-- Splits identifiers by what the store gave for them. -/
def plan (enrich : Transform) (ids : List EntityId) (entities : List Entity) : Plan :=
  let live := entities.filter fun e => !e.deleted
  ⟨live.map (document enrich), ids.filter fun i => i ∉ live.map Entity.id⟩

/-- Writes a plan; a part with nothing in it is no call. -/
def write {σ : Type} (index : SearchIndex σ) (p : Plan) : Action σ Unit := do
  if !p.documents.isEmpty then index.upsert p.documents
  if !p.tombstoned.isEmpty then index.tombstone p.tombstoned

/-- Brings identifiers up to date in the index. -/
def run {σ : Type} (store : PrimaryStore σ) (index : SearchIndex σ) (enrich : Transform)
    (ids : List EntityId) : Action σ Outcome := do
  let ids := distinct ids
  if ids.isEmpty then pure ⟨[], []⟩
  else
    let entities ← store.entities ids
    let p := plan enrich ids entities
    write index p
    pure ⟨p.documents.map Document.id, p.tombstoned⟩

end Indexer

end Outbox
