import Outbox.Search.Settings
import Outbox.Entity
import Outbox.Json.Printer
import Outbox.Url.Basic

/-!
# Requests to the search index

Two requests are ever sent.  A search asks for the version and the flag of documents by identifier.
A bulk request writes documents: one line names index and identifier, the next is the source, and
each ends in a line feed; when there are two indices to write to, all items go to the first and then
all to the second.
-/

namespace Outbox.Search

/-- A request as it is sent. -/
structure Request where
  method : String
  url : Url
  contentType : String
  authorization : Option String
  body : String
  deriving DecidableEq

/-- One document of a bulk request, with what is written. -/
abbrev Item := EntityId × Json

namespace Request

/-- The query for the projections of documents. -/
def statusQuery (ids : List EntityId) : Json :=
  .object [
    ("_source", .array [.string "updated", .string "deleted"]),
    ("query", .object [("ids", .object [("values", .array (ids.map fun i => .string i.text))])]),
    ("size", .int ids.length)]

/-- The line that says where an item goes. -/
def action (target : String) (id : EntityId) : Json :=
  .object [("index", .object [("_id", .string id.text), ("_index", .string target)])]

/-- The two lines of an item. -/
def itemLines (target : String) (item : Item) : List Char :=
  (action target item.1).render ++ '\n' :: (item.2.render ++ ['\n'])

/-- The lines of all items for each target in turn. -/
def bulkBody (targets : List String) (items : List Item) : List Char :=
  targets.flatMap fun target => items.flatMap (itemLines target)

/-- The header that carries the key, if one is set. -/
def authorizationOf (s : Settings) : Option String := s.apiKey.map fun key => "ApiKey " ++ key

/-- Asks for the projections of documents. -/
def search (s : Settings) (ids : List EntityId) (url : Url) : Request where
  method := "POST"
  url
  contentType := "application/json"
  authorization := authorizationOf s
  body := (statusQuery ids).text

/-- Writes items to every target. -/
def bulk (s : Settings) (items : List Item) (url : Url) : Request where
  method := "POST"
  url
  contentType := "application/x-ndjson"
  authorization := authorizationOf s
  body := String.ofList (bulkBody s.writeTargets items)

end Request

end Outbox.Search
