import Outbox.Action
import Outbox.Database.Statement

/-!
# A scripted database

A connection whose replies are written down beforehand.  Statements with arguments or a result use
one reply each, in order, and find no rows when the script has ended; the others succeed unless the
script refuses them.  Every statement sent is kept.
-/

namespace Outbox.Database

/-- A value of a row; nothing stands for SQL NULL. -/
abbrev Cell := Option Json

/-- A row of a result. -/
abbrev Row := List Cell

/-- What comes back for a statement. -/
inductive Reply
  | rows (rows : List Row)
  | refused (text : String)
  deriving DecidableEq

/-- The replies to come, and what was sent. -/
structure Script where
  replies : List Reply
  /-- Statements without arguments that will be refused, each once. -/
  refusals : List String
  sent : List Statement
  deriving DecidableEq

namespace Script

/-- A script with nothing sent yet. -/
def ofReplies (replies : List Reply) (refusals : List String) : Script := ⟨replies, refusals, []⟩

/-- Keeps a statement as sent. -/
def record (statement : Statement) (s : Script) : Script :=
  { s with sent := s.sent ++ [statement] }

/-- Sends a statement that has arguments or a result. -/
def query (statement : Statement) : Action Script (List Row) :=
  Action.ofFun fun s =>
    let s := s.record statement
    match s.replies with
    | [] => (.ok [], s)
    | .rows rows :: rest => (.ok rows, { s with replies := rest })
    | .refused text :: rest =>
      (.error (.database (.refused text)), { s with replies := rest })

/-- Sends a statement whose rows do not matter. -/
def execute (statement : Statement) : Action Script Unit := do
  let _ ← query statement

/-- Sends a statement without arguments and without a result. -/
def simple (statement : Statement) : Action Script Unit :=
  Action.ofFun fun s =>
    let s := s.record statement
    if statement.text ∈ s.refusals then
      (.error (.database (.refused (statement.text ++ " refused"))),
        { s with refusals := s.refusals.erase statement.text })
    else (.ok (), s)

/-! ### Transactions -/

/-- Opens a transaction. -/
def begin : Action Script Unit := simple .begin

/-- Ends a transaction that nobody holds any more; what comes back does not matter. -/
def abandon (s : Script) : Script := ((simple .rollback).exec s).2

/-- Ends a transaction with a statement; if that is refused, the transaction is abandoned. -/
def finish (statement : Statement) : Action Script Unit :=
  Action.ofFun fun s =>
    match (simple statement).exec s with
    | (.ok (), s) => (.ok (), s)
    | (.error e, s) => (.error e, abandon s)

/-- Makes the changes of a transaction last. -/
def commit : Action Script Unit := finish .commit

/-- Undoes the changes of a transaction. -/
def rollback : Action Script Unit := finish .rollback

/-- A step of a transaction that is abandoned when the step fails. -/
def orAbandon {α : Type} (step : Action Script α) : Action Script α :=
  Action.ofFun fun s =>
    match step.exec s with
    | (.ok a, s) => (.ok a, s)
    | (.error e, s) => (.error e, abandon s)

end Script

/-! ### Columns -/

namespace Cell

/-- An identifier. -/
def uuid? : Cell → Option Uuid
  | some (.string s) => Uuid.ofText? s
  | _ => none

/-- A moment, given as seconds and nanoseconds; whole microseconds are kept. -/
def moment? : Cell → Option Time.Timestamp
  | some (.array [.number (.integer seconds), .number (.integer nanos)]) =>
    some (Time.Timestamp.truncateMicros ⟨seconds, nanos.toNat⟩)
  | _ => none

/-- A flag. -/
def flag? : Cell → Option Bool
  | some (.bool b) => some b
  | _ => none

/-- An integer of 64 bits. -/
def integer? : Cell → Option Int
  | some (.number (.integer n)) => some n
  | _ => none

/-- A text. -/
def text? : Cell → Option String
  | some (.string s) => some s
  | _ => none

/-- A JSON value, which may be null. -/
def json? : Cell → Option Json := id

end Cell

/-- Reads the column at a position; a column that is missing or does not fit holds nothing. -/
def column {α : Type} (row : Row) (position : Nat) (name : ColumnRef) (read : Cell → Option α) :
    Except Error α :=
  match (row[position]?).bind read with
  | some a => .ok a
  | none => .error (.database (.nullColumn name))

/-- Reads a column that goes by its number. -/
def numbered {α : Type} (row : Row) (position : Nat) (read : Cell → Option α) : Except Error α :=
  column row position (.position position) read

/-- Reads a column that goes by its name. -/
def named {α : Type} (row : Row) (position : Nat) (name : String) (read : Cell → Option α) :
    Except Error α :=
  column row position (.name name) read

end Outbox.Database
