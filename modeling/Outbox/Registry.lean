import Outbox.Entity
import Outbox.Error
import Outbox.Json.Expect

/-!
# Tags and payloads

A registry says for each tag how the payload of its tasks is read.  There is one kind of task, which
asks for one entity to be brought up to date; its payload is an object with the single member
`entity_id`, or an array of that one value.
-/

namespace Outbox

/-- What a task asks for. -/
inductive TaskKind
  /-- Bring one entity up to date in the search index. -/
  | syncEntity
  deriving DecidableEq

/-- A payload that was understood. -/
inductive Payload
  | syncEntity (entity : EntityId)
  deriving DecidableEq

namespace Payload

/-- What the payload asks for. -/
def kind : Payload → TaskKind
  | .syncEntity _ => .syncEntity

/-- The entity concerned. -/
def entity : Payload → EntityId
  | .syncEntity e => e

/-- The value kept with the task. -/
def toJson : Payload → Json
  | .syncEntity e => .object [("entity_id", .string e.text)]

/-- The refusal of a member that a payload does not have. -/
def unknownMember (name : String) : String :=
  "unknown field " ++ Json.backquoted name ++ ", expected " ++ Json.backquoted "entity_id"

/-- Reads the object form, whose members stand in the order of their names. -/
def entityOfMembers : Json.Members → Except String EntityId
  | [] => .error (Json.missingField "entity_id")
  | (name, j) :: rest =>
    if name = "entity_id" then
      match Uuid.ofJson j, rest with
      | .error reason, _ => .error reason
      | .ok u, [] => .ok ⟨u⟩
      | .ok _, (other, _) :: _ => .error (unknownMember other)
    else .error (unknownMember name)

/-- Reads the payload of a task that concerns one entity. -/
def entityOfJson : Json → Except String EntityId
  | .object ms => entityOfMembers ms
  | .array [] => .error (Json.tooFew 0 "struct SyncEntityArgs with 1 element")
  | .array [j] => (Uuid.ofJson j).map .mk
  | .array (j :: rest) =>
    match Uuid.ofJson j with
    | .error reason => .error reason
    | .ok _ => .error (Json.tooMany (rest.length + 1))
  | j => .error (j.wrongKind "struct SyncEntityArgs")

/-- Reads a payload of a given kind. -/
def ofJson : TaskKind → Json → Except String Payload
  | .syncEntity, j => (entityOfJson j).map .syncEntity

end Payload

/-- The tag that producers give a task when an entity changes. -/
def syncEntityTag : String := "sync_entity"

/-- The tag of tasks that ask for a range of dates to be indexed again. -/
def reindexDateTag : String := "reindex_date"

/-- The tags that are known. -/
structure Registry where
  kinds : Table String TaskKind
  deriving DecidableEq

namespace Registry

/-- No tag is known. -/
def empty : Registry := ⟨[]⟩

/-- Makes a tag known, or gives it another kind. -/
def register (r : Registry) (tag : String) (kind : TaskKind) : Registry :=
  ⟨Table.insert r.kinds tag kind⟩

/-- The tags of the producers here. -/
def standard : Registry :=
  (empty.register syncEntityTag .syncEntity).register reindexDateTag .syncEntity

/-- The kind of a tag. -/
def kindOf (r : Registry) (tag : String) : Option TaskKind := Table.find? r.kinds tag

/-- Reads a payload as its tag asks, or says why it cannot be read. -/
def read (r : Registry) (tag : String) (payload : Json) : Except String Payload :=
  match r.kindOf tag with
  | none => .error ("unknown tag " ++ Text.quoted tag)
  | some kind => Payload.ofJson kind payload

/-- Reads the payload of a task. -/
def decode (r : Registry) (t : Task) : Except Error Payload :=
  match r.read t.tag t.payload with
  | .ok p => .ok p
  | .error reason => .error (.malformedPayload t.id reason)

end Registry

end Outbox
