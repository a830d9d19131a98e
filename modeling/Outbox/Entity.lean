import Outbox.Uuid.Text
import Outbox.Time.Format
import Outbox.Json.Basic

/-!
# Entities and their documents

An entity lives in the primary store; a document is what the search index holds of it.  Of either,
comparing needs only a projection: the version `updated` and the flag `deleted`.
-/

namespace Outbox

open Outbox.Time

/-- Names an entity and its document. -/
structure EntityId where
  uuid : Uuid
  deriving DecidableEq

namespace EntityId

instance : Inhabited EntityId := ⟨⟨default⟩⟩

instance : LT EntityId := ⟨fun a b => a.uuid < b.uuid⟩

instance : LE EntityId := ⟨fun a b => a.uuid ≤ b.uuid⟩

instance (a b : EntityId) : Decidable (a < b) := inferInstanceAs (Decidable (a.uuid < b.uuid))

instance (a b : EntityId) : Decidable (a ≤ b) := inferInstanceAs (Decidable (a.uuid ≤ b.uuid))

/-- The written form. -/
def text (e : EntityId) : String := e.uuid.text

/-- Reads any spelling of an identifier. -/
def ofText? (s : String) : Option EntityId := (Uuid.ofText? s).map .mk

end EntityId

/-- The projection of an entity in the primary store. -/
structure PrimaryStatus where
  updated : Timestamp
  deleted : Bool
  deriving DecidableEq

/-- The projection of a document in the search index; a tombstone has no version. -/
structure IndexStatus where
  updated : Option Timestamp
  deleted : Bool
  deriving DecidableEq

/-- An entity as loaded for indexing. -/
structure Entity where
  id : EntityId
  updated : Timestamp
  deleted : Bool
  body : Json.Members
  deriving DecidableEq

/-- The projection that is compared. -/
def Entity.status (e : Entity) : PrimaryStatus := ⟨e.updated, e.deleted⟩

/-- A live document, ready to be written to the index. -/
structure Document where
  id : EntityId
  updated : Timestamp
  body : Json.Members
  deriving DecidableEq

namespace Document

/-- The document of an entity before any enrichment. -/
def ofEntity (e : Entity) : Document := ⟨e.id, e.updated, e.body⟩

/-- What is written to the index: the body, where identifier, version and flag win over members of
the same names. -/
def source (d : Document) : Json :=
  let members := Table.insert d.body "id" (Json.string d.id.text)
  let members := Table.insert members "updated" (Json.string (String.ofList d.updated.version))
  .object (Table.insert members "deleted" (Json.bool false))

end Document

/-- What is written over the document of an entity that is gone. -/
def tombstoneSource : Json := .object [("deleted", .bool true)]

/-- Enrichment of a document before it is written. -/
abbrev Transform := Entity → Document → Document

/-- Leaves documents as they were loaded. -/
def Transform.unchanged : Transform := fun _ d => d

end Outbox
