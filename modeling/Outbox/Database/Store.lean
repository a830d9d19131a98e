import Outbox.Backend
import Outbox.Database.Script

/-!
# The primary store in a database

A reader of one table with the columns `id`, `updated` and `deleted`; all other columns make up the
body of an entity.  How `updated` is stored is asked of the catalog on first need, and again until
the answer is one of the two types that hold moments; from then on it is known.
-/

namespace Outbox.Database

open Outbox.Time

/-- A connection, and what is known of the table. -/
structure Connection where
  script : Script
  column : Option UpdatedColumn
  deriving DecidableEq

namespace Connection

/-- A connection by which nothing was sent yet. -/
def ofScript (s : Script) : Connection := ⟨s, none⟩

/-- The script as a part of the connection. -/
def scriptPart : Part Connection Script := ⟨Connection.script, fun c s => { c with script := s }⟩

/-- Sends a statement that has arguments or a result. -/
def query (statement : Statement) : Action Connection (List Row) :=
  (Script.query statement).within scriptPart

end Connection

namespace Store

/-- Asks the catalog how the column is stored. -/
def detectColumn (table : TableName) : Action Connection UpdatedColumn := do
  match ← Connection.query (.columnType table) with
  | [] => throw (.config ("table " ++ table.text ++ " has no updated column"))
  | row :: _ =>
    match numbered row 0 Cell.text? with
    | .error e => throw e
    | .ok name =>
      match UpdatedColumn.ofTypeName? name with
      | some c => pure c
      | none =>
        throw (.config
          (table.text ++ ".updated must be a timestamp column, found " ++ name))

/-- How the column is stored: as known, or else as found out now. -/
def updatedColumn (table : TableName) : Action Connection UpdatedColumn := do
  match (← get).column with
  | some c => pure c
  | none => do
    let c ← detectColumn table
    modify fun s => { s with column := some c }
    pure c

/-- Reads rows one after the other, up to the first that cannot be read. -/
def readRows {α : Type} (read : Row → Except Error α) (rows : List Row) : Action Connection (List α) :=
  Action.ofView fun _ => rows.mapM read

/-- Reads identifier and projection. -/
def statusOfRow (row : Row) : Except Error (EntityId × PrimaryStatus) := do
  let id ← numbered row 0 Cell.uuid?
  let updated ← numbered row 1 Cell.moment?
  let deleted ← numbered row 2 Cell.flag?
  .ok (⟨id⟩, ⟨updated, deleted⟩)

/-- Reads an entity; a body that is no object is empty. -/
def entityOfRow (row : Row) : Except Error Entity := do
  let id ← named row 0 "id" Cell.uuid?
  let updated ← named row 1 "updated" Cell.moment?
  let deleted ← named row 2 "deleted" Cell.flag?
  let body ← named row 3 "body" Cell.json?
  .ok ⟨⟨id⟩, updated, deleted, body.members⟩

/-- Reads an identifier. -/
def idOfRow (row : Row) : Except Error EntityId := (numbered row 0 Cell.uuid?).map .mk

/-- The projections of entities; for no identifiers nothing is sent. -/
def statuses (table : TableName) (ids : List EntityId) :
    Action Connection (Table EntityId PrimaryStatus) := do
  if ids.isEmpty then pure []
  else
    let column ← updatedColumn table
    let rows ← Connection.query (.statuses table column ids)
    let found ← readRows statusOfRow rows
    pure (Table.ofList found)

/-- Whole entities, in the order of the rows; for no identifiers nothing is sent. -/
def entities (table : TableName) (ids : List EntityId) : Action Connection (List Entity) := do
  if ids.isEmpty then pure []
  else
    let column ← updatedColumn table
    let rows ← Connection.query (.entities table column ids)
    readRows entityOfRow rows

/-- The entities of a range of versions, in the order of the rows. -/
def updatedBetween (table : TableName) (start stop : Timestamp) :
    Action Connection (List EntityId) := do
  let column ← updatedColumn table
  let rows ← Connection.query (.updatedBetween table column start stop)
  readRows idOfRow rows

/-- The store as the reconciler uses it. -/
def backend (table : TableName) : PrimaryStore Connection where
  statuses := statuses table
  entities := entities table
  updatedBetween := updatedBetween table

end Store

end Outbox.Database
