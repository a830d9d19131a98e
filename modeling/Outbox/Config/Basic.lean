import Outbox.Decimal.Integer
import Outbox.Search.Settings
import Outbox.TableName
import Outbox.Text.Blank
import Outbox.Text.Utf8

/-!
# Configuration

Everything is read once from environment variables.  A variable that is not text counts as unset, and
so does a blank one where a variable may be left out.  Numbers are read without the blanks around
them; all other values are kept as they are.  The first fault in the order below is reported.
-/

namespace Outbox

open Outbox.Decimal Outbox.Time

/-- The variables of a process, as bytes; of two settings of one name the first counts. -/
abbrev Environment := List (String × List UInt8)

namespace Environment

/-- The value of a variable, if it is set and is text. -/
def get? (env : Environment) (name : String) : Option String :=
  match env.find? fun v => v.1 == name with
  | some (_, bytes) => Text.Utf8.decode? bytes
  | none => none

/-- The value of a variable, if it has more than blanks. -/
def optional (env : Environment) (name : String) : Option String :=
  (env.get? name).filter fun v => !Text.allBlank v.toList

/-- The value of a variable that must be set. -/
def required (env : Environment) (name : String) : Except Error String :=
  match env.get? name with
  | some v => .ok v
  | none => .error (.config ("required environment variable " ++ name ++ " is not set"))

/-- The number that a variable holds, or the standard one. -/
def integer (env : Environment) (name : String) (range : IntegerRange) (standard : Int) :
    Except Error Int :=
  match env.optional name with
  | none => .ok standard
  | some raw =>
    match readInteger range (Text.trim raw.toList) with
    | .ok n => .ok n
    | .error e =>
      .error (.config (name ++ "=" ++ Text.quoted raw ++ " is invalid: " ++ e.message))

end Environment

/-- The settings of the program. -/
structure Config where
  databaseUrl : String
  search : Search.Settings
  /-- The most tasks that a tick claims. -/
  taskLimit : Int
  /-- The time between the ticks of the service. -/
  pollInterval : Duration
  /-- The table of the tracked entities. -/
  primaryTable : TableName
  otelEndpoint : Option String
  logLevel : String
  deriving DecidableEq

namespace Config

/-- Reads the number of tasks that a tick claims, which must be positive. -/
def readTaskLimit (env : Environment) : Except Error Int := do
  let limit ← env.integer "SYNC_TASK_LIMIT" .signed64 1000
  if limit ≤ 0 then
    .error (.config ("SYNC_TASK_LIMIT must be greater than zero, got " ++ toString limit))
  else .ok limit

/-- Reads the table of the tracked entities. -/
def readPrimaryTable (env : Environment) : Except Error TableName :=
  TableName.ofText ((env.optional "PRIMARY_TABLE").getD TableName.standard.text)

/-- Reads how calls of the search index are retried. -/
def readRetry (env : Environment) : Except Error RetryPolicy := do
  let retries ← env.integer "INDEX_MAX_RETRIES" .word32 2
  let start ← env.integer "INDEX_RETRY_START_MS" .word64 200
  let step ← env.integer "INDEX_RETRY_STEP_MS" .word64 200
  let cap ← env.integer "INDEX_RETRY_MAX_MS" .word64 600
  .ok ⟨UInt32.ofNat retries.toNat, .ofMillis start.toNat, .ofMillis step.toNat,
    .ofMillis cap.toNat⟩

/-- Reads all settings. -/
def fromEnvironment (env : Environment) : Except Error Config := do
  let taskLimit ← readTaskLimit env
  let primaryTable ← readPrimaryTable env
  let retry ← readRetry env
  let databaseUrl ← env.required "DATABASE_URL"
  let url ← env.required "SEARCH_URL"
  let pollInterval ← env.integer "POLL_INTERVAL_SECS" .word64 60
  .ok {
    databaseUrl
    search := {
      url
      index := (env.optional "SEARCH_INDEX").getD "annotation"
      apiKey := env.optional "SEARCH_API_KEY"
      reindexTarget := env.optional "SEARCH_REINDEX_TARGET"
      retry }
    taskLimit
    pollInterval := .ofSeconds pollInterval.toNat
    primaryTable
    otelEndpoint := env.optional "OTEL_ENDPOINT"
    logLevel := (env.optional "LOG_LEVEL").getD "info" }

end Config

end Outbox
