import Outbox.TableName
import Outbox.Task

/-!
# Statements

Every statement that is ever sent to the database, with its arguments.  The text of a statement is
fixed but for two places: the name of the primary table, which is a plain identifier, and the reading
of the column `updated`, which depends on how that column is stored.
-/

namespace Outbox.Database

open Outbox.Time

/-- How the column `updated` is stored. -/
inductive UpdatedColumn
  /-- With a time zone. -/
  | zoned
  /-- Without one, and taken as UTC. -/
  | naiveUtc
  deriving DecidableEq

namespace UpdatedColumn

/-- The column of a given type, if it holds moments. -/
def ofTypeName? (name : String) : Option UpdatedColumn :=
  if name = "timestamp with time zone" then some .zoned
  else if name = "timestamp without time zone" then some .naiveUtc
  else none

/-- The expression that reads the column as a moment. -/
def reading : UpdatedColumn → String
  | .zoned => "t.updated"
  | .naiveUtc => "(t.updated AT TIME ZONE 'UTC')"

/-- The expression that turns a moment given as a placeholder into the type of the column. -/
def bound (c : UpdatedColumn) (placeholder : String) : String :=
  match c with
  | .zoned => placeholder
  | .naiveUtc => "(" ++ placeholder ++ " AT TIME ZONE 'UTC')"

end UpdatedColumn

/-- A value that is sent with a statement. -/
inductive Argument
  | id (u : Uuid)
  | ids (us : List Uuid)
  | moment (t : Timestamp)
  | text (s : String)
  | json (j : Json)
  | jsons (js : List Json)
  | number (n : Int)
  | null
  deriving DecidableEq

/-- A moment that may be missing. -/
def Argument.ofMoment? : Option Timestamp → Argument
  | some t => .moment t
  | none => .null

/-- Everything that can be sent. -/
inductive Statement
  | begin
  | commit
  | rollback
  | migration
  | health
  | stats
  | insertTask (id : TaskId) (scheduledAt : Option Timestamp) (tag : String) (payload : Json)
  | insertTasks (ids : List TaskId) (scheduledAt : Option Timestamp) (tag : String)
      (payloads : List Json)
  | claimDue (limit : Int)
  | insertDeadLetter (task : Task) (reason : String)
  | deleteTask (id : TaskId)
  | deleteTasks (ids : List TaskId)
  | columnType (table : TableName)
  | statuses (table : TableName) (column : UpdatedColumn) (ids : List EntityId)
  | entities (table : TableName) (column : UpdatedColumn) (ids : List EntityId)
  | updatedBetween (table : TableName) (column : UpdatedColumn) (start stop : Timestamp)
  deriving DecidableEq

namespace Statement

/-- The tables of the queue, created where they do not exist yet. -/
def migrationText : String :=
  "-- Transactional task queue. Rows are inserted by producers inside the " ++
  "-- transaction that mutates primary data and deleted by the reconciler. " ++
  "CREATE TABLE IF NOT EXISTS task_queue ( id UUID PRIMARY KEY, " ++
  "enqueued_at TIMESTAMPTZ NOT NULL DEFAULT now(), scheduled_at TIMESTAMPTZ NOT NULL, " ++
  "tag TEXT NOT NULL, payload JSONB NOT NULL DEFAULT '\x7b\x7d'::jsonb ); " ++
  "CREATE INDEX IF NOT EXISTS task_queue_due_idx ON task_queue (scheduled_at, enqueued_at); " ++
  "-- Tasks whose payload could not be decoded, kept for inspection. " ++
  "CREATE TABLE IF NOT EXISTS task_queue_dead_letter ( id UUID PRIMARY KEY, " ++
  "enqueued_at TIMESTAMPTZ NOT NULL, scheduled_at TIMESTAMPTZ NOT NULL, tag TEXT NOT NULL, " ++
  "payload JSONB NOT NULL, reason TEXT NOT NULL, " ++
  "quarantined_at TIMESTAMPTZ NOT NULL DEFAULT now() );"

/-- The text of a statement, with one space for each run of blanks. -/
def text : Statement → String
  | .begin => "BEGIN"
  | .commit => "COMMIT"
  | .rollback => "ROLLBACK"
  | .migration => migrationText
  | .health => "SELECT 1"
  | .stats => "SELECT count(*), count(*) FILTER (WHERE scheduled_at < now()) FROM task_queue"
  | .insertTask .. =>
    "INSERT INTO task_queue (id, scheduled_at, tag, payload) " ++
      "VALUES ($1, COALESCE($2, now()), $3, $4)"
  | .insertTasks .. =>
    "INSERT INTO task_queue (id, scheduled_at, tag, payload) " ++
      "SELECT t.id, COALESCE($2, now()), $3, t.payload " ++
      "FROM UNNEST($1::uuid[], $4::jsonb[]) AS t(id, payload)"
  | .claimDue _ =>
    "SELECT id, enqueued_at, scheduled_at, tag, payload FROM task_queue " ++
      "WHERE scheduled_at < now() ORDER BY enqueued_at, id LIMIT $1 FOR UPDATE SKIP LOCKED"
  | .insertDeadLetter .. =>
    "INSERT INTO task_queue_dead_letter (id, enqueued_at, scheduled_at, tag, payload, reason) " ++
      "VALUES ($1, $2, $3, $4, $5, $6) ON CONFLICT (id) DO NOTHING"
  | .deleteTask _ => "DELETE FROM task_queue WHERE id = $1"
  | .deleteTasks _ => "DELETE FROM task_queue WHERE id = ANY($1)"
  | .columnType _ =>
    "SELECT format_type(a.atttypid, NULL) FROM pg_attribute a " ++
      "WHERE a.attrelid = $1::text::regclass AND a.attname = 'updated' AND NOT a.attisdropped"
  | .statuses table column _ =>
    "SELECT t.id, " ++ column.reading ++ " AS updated, t.deleted FROM " ++ table.text ++
      " t WHERE t.id = ANY($1)"
  | .entities table column _ =>
    "SELECT t.id, " ++ column.reading ++ " AS updated, t.deleted, " ++
      "to_jsonb(t) - 'id' - 'updated' - 'deleted' AS body FROM " ++ table.text ++
      " t WHERE t.id = ANY($1)"
  | .updatedBetween table column _ _ =>
    "SELECT t.id FROM " ++ table.text ++ " t WHERE t.updated >= " ++ column.bound "$1" ++
      " AND t.updated <= " ++ column.bound "$2" ++ " ORDER BY t.updated"

/-- The arguments of a statement. -/
def arguments : Statement → List Argument
  | .begin | .commit | .rollback | .migration | .health | .stats => []
  | .insertTask id scheduledAt tag payload =>
    [.id id.uuid, .ofMoment? scheduledAt, .text tag, .json payload]
  | .insertTasks ids scheduledAt tag payloads =>
    [.ids (ids.map TaskId.uuid), .ofMoment? scheduledAt, .text tag, .jsons payloads]
  | .claimDue limit => [.number limit]
  | .insertDeadLetter t reason =>
    [.id t.id.uuid, .moment t.enqueuedAt, .moment t.scheduledAt, .text t.tag, .json t.payload,
      .text reason]
  | .deleteTask id => [.id id.uuid]
  | .deleteTasks ids => [.ids (ids.map TaskId.uuid)]
  | .columnType table => [.text table.text]
  | .statuses _ _ ids | .entities _ _ ids => [.ids (ids.map EntityId.uuid)]
  | .updatedBetween _ _ start stop => [.moment start, .moment stop]

/-- Whether a statement is sent as it is, without arguments and without a result. -/
def isSimple : Statement → Bool
  | .begin | .commit | .rollback | .migration => true
  | _ => false

/-- The tasks that a statement inserts. -/
def inserted : Statement → List TaskId
  | .insertTask id .. => [id]
  | .insertTasks ids .. => ids
  | _ => []

end Statement

/-- The whole microseconds from 2000-01-01T00:00:00 to a moment, cut toward zero, which is how a
moment is sent. -/
def sentMicros (t : Timestamp) : Int :=
  Int.tdiv ((t.seconds - 946684800) * nanosPerSecond + t.nanos) 1000

/-- The moment that is sent for another. -/
def sentMoment (t : Timestamp) : Timestamp :=
  Timestamp.addNanos ⟨946684800, 0⟩ (sentMicros t * 1000)

end Outbox.Database
