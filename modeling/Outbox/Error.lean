import Outbox.Entity
import Outbox.Task

/-!
# Errors

Everything that can go wrong, by cause.  `Error.message` words a cause, and `Error.isTransient` says
whether the same request might succeed when it is sent again.
-/

namespace Outbox

/-- What a column read gives in place of a value: the column by number or by name. -/
inductive ColumnRef
  | position (n : Nat)
  | name (s : String)
  deriving DecidableEq

/-- Why the database gave no answer. -/
inductive DatabaseFailure
  /-- No connection came free in time. -/
  | poolTimedOut
  /-- The connection could not be made or was lost. -/
  | unreachable (reason : String)
  /-- What the database is to be found by is at fault. -/
  | configuration (reason : String)
  /-- The database refused a statement. -/
  | refused (text : String)
  /-- A row was expected and none came. -/
  | noRow
  /-- A column holds no value. -/
  | nullColumn (column : ColumnRef)
  deriving DecidableEq

/-- The wording of a column. -/
def ColumnRef.text : ColumnRef → String
  | .position n => toString n
  | .name s => Text.quoted s

/-- The wording of a failure of the database. -/
def DatabaseFailure.message : DatabaseFailure → String
  | .poolTimedOut => "pool timed out while waiting for an open connection"
  | .unreachable reason => "error communicating with database: " ++ reason
  | .configuration reason => "error with configuration: " ++ reason
  | .refused text => "error returned from database: " ++ text
  | .noRow => "no rows returned by a query that expected to return at least one row"
  | .nullColumn column =>
    "error occurred while decoding column " ++ column.text ++
      ": unexpected null; try decoding as an " ++ Json.backquoted "Option"

/-- Why a request to the search index has no reply that can be used. -/
inductive HttpFailure
  /-- No connection could be made. -/
  | connect (url : String)
  /-- The reply did not come in time. -/
  | timeout (url : String)
  /-- The connection closed before the reply. -/
  | dropped (url : String)
  /-- There is no such request: a header value cannot be sent, or the address is none. -/
  | badRequest
  /-- The body ended early or is not what a reply looks like. -/
  | badBody
  deriving DecidableEq

/-- The wording of a failed request. -/
def HttpFailure.message : HttpFailure → String
  | .connect url | .timeout url | .dropped url =>
    "error sending request for url (" ++ url ++ ")"
  | .badRequest => "builder error"
  | .badBody => "error decoding response body"

/-- Whether the same request might get through later. -/
def HttpFailure.isTransient : HttpFailure → Bool
  | .connect _ | .timeout _ => true
  | .dropped _ | .badRequest | .badBody => false

/-- What went wrong. -/
inductive Error
  | config (text : String)
  | database (failure : DatabaseFailure)
  | migration (failure : DatabaseFailure)
  | http (failure : HttpFailure)
  | index (status : Nat) (body : String)
  | partialBatchFailure (failed : List EntityId)
  | malformedPayload (task : TaskId) (reason : String)
  | json (reason : String)
  | other (text : String)
  deriving DecidableEq

namespace Error

/-- The wording of an error. -/
def message : Error → String
  | .config text => "configuration error: " ++ text
  | .database failure => "database error: " ++ failure.message
  | .migration failure => "migration failed: while executing migrations: " ++ failure.message
  | .http failure => "search index request failed: " ++ failure.message
  | .index status body => "search index returned " ++ toString status ++ ": " ++ body
  | .partialBatchFailure failed =>
    "search index rejected " ++ toString failed.length ++ " of the batch's documents"
  | .malformedPayload task reason =>
    "malformed payload on task " ++ task.text ++ ": " ++ reason
  | .json reason => "json error: " ++ reason
  | .other text => text

/-- Whether the same request might succeed later: throttling, trouble on the side of the index, or
no connection to it. -/
def isTransient : Error → Bool
  | .http failure => failure.isTransient
  | .index status _ => status == 429 || 500 ≤ status
  | _ => false

end Error

end Outbox
