import Outbox.CommandLine.Arguments
import Outbox.Config.Basic
import Outbox.Search.Script
import Outbox.Session.World
import Outbox.Telemetry.Collector
import Outbox.Telemetry.Filter

/-!
# Running a command

Arguments are read first, then the configuration; then the filter and the collector of telemetry are
prepared, the database is connected and its tables are created; then the command does its work.  A
run ends with an exit code, what it printed, and one line about what went wrong, before which the
filter may have complained.
-/

namespace Outbox.CommandLine

open Outbox.Time

/-- What a run depends on besides its arguments. -/
structure Surroundings where
  environment : Environment
  network : Network
  database : Database.Script
  search : Search.Script
  now : Timestamp
  /-- How many ticks the service runs before it is interrupted. -/
  ticks : Nat

/-- How a run ended, and what was sent: while the tables were created, and after that. -/
structure Result where
  exit : Nat
  stdout : String
  /-- The line about what went wrong. -/
  failure : Option String
  /-- What the filter of telemetry complained about before that. -/
  complaints : List String
  migration : List Database.Statement
  statements : List Database.Statement
  requests : List Search.Request

/-- What stopped a command. -/
inductive Failure
  | error (e : Error)
  /-- A value that no part of the program can go on with. -/
  | panic
  deriving DecidableEq

/-- The state of a command. -/
abbrev World := Session.World Search.Script

/-- What a command prints, or what stopped it, and the state after it. -/
abbrev Work := World → Except Failure String × World

/-- The work of an action whose value is printed. -/
def printing {α : Type} (show_ : α → String) (a : Action World α) : Work := fun w =>
  match a.exec w with
  | (.ok x, w) => (.ok (show_ x), w)
  | (.error e, w) => (.error (.error e), w)

/-- The line about a tick. -/
def reportLine (r : Reconciler.Report) : String :=
  "Claimed " ++ toString r.claimed ++ ": " ++ toString r.obsolete ++ " obsolete, " ++
    toString r.alreadyConsistent ++ " already consistent, " ++ toString r.needsIndex ++
    " needs-index (" ++ toString r.indexedEntities ++ " entities indexed), " ++
    toString r.quarantined ++ " quarantined\n"

/-- Inserts a task for each identifier, in a transaction of their own. -/
def enqueue (ids : List EntityId) (tag : String) (scheduledAt : Option Timestamp) :
    Action Database.Script Nat := do
  Database.Script.begin
  let queued ← Database.Script.orAbandon
    (Database.Queue.enqueueBatch Simulation.taskNumber ids tag scheduledAt)
  Database.Script.commit
  pure queued.length

/-- Runs ticks one after the other; a tick that fails leaves its tasks for the next one. -/
def serve (r : Reconciler World Database.Claim) : Nat → Work
  | 0, w => (.ok "", w)
  | ticks + 1, w => serve r ticks (r.tick.exec w).2

/-- The work of a command. -/
def work (config : Config) (setup : Session.Setup Search.Script) (s : Surroundings) :
    Command → Work
  | .migrate => fun w => (.ok "Migrations applied.\n", w)
  | .tick => printing reportLine setup.reconciler.tick
  | .serve =>
    if config.pollInterval = .zero then fun w => (.error .panic, w)
    else serve setup.reconciler s.ticks
  | .enqueue ids tag delay =>
    let at_ := s.now.addSeconds delay
    if 0 < delay ∧ ¬at_.Valid then fun w => (.error .panic, w)
    else
      printing
        (fun n => "Queued " ++ toString n ++ " task(s) with tag " ++ tag ++ ".\n")
        ((enqueue ids tag (if 0 < delay then some at_ else none)).within
          Session.World.scriptPart)
  | .reindexDate start stop =>
    printing
      (fun n => "Queued " ++ toString n ++ " entities updated between " ++ start.plain ++
        " and " ++ stop.plain ++ ".\n")
      ((Database.reindexDate config.primaryTable Simulation.taskNumber start stop).within
        Session.World.connectionPart)
  | .index ids =>
    let r := setup.reconciler
    printing
      (fun o => "Upserted " ++ toString o.upserted.length ++ ", tombstoned " ++
        toString o.tombstoned.length ++ ".\n")
      (Indexer.run r.store r.index .unchanged ids)
  | .status =>
    printing
      (fun st => "Tasks:  " ++ toString st.total ++ "\nDue:    " ++ toString st.due ++ "\n")
      (Database.Queue.stats.within Session.World.scriptPart)

/-- What a command works with, from its configuration. -/
def setupOf (config : Config) : Session.Setup Search.Script where
  table := config.primaryTable
  index := Search.Client.backend config.search Search.Script.transport
  inspect _ x := (.done, x)
  enrich := .unchanged
  registry := .standard
  limit := config.taskLimit

/-- A text up to its first line break. -/
def lineOf (s : String) : String := String.ofList (firstLine s.toList)

/-- The line about an error. -/
def errorLine (e : Error) : String := lineOf ("Error: " ++ e.message)

/-- The first line that a run which went wrong wrote about it. -/
def Result.message (r : Result) : Option String :=
  r.failure.map fun line =>
    match r.complaints with
    | [] => line
    | complaint :: _ => lineOf complaint

/-- A run that ended before anything was sent. -/
def Result.early (exit : Nat) (failure : Option String) : Result :=
  ⟨exit, "", failure, [], [], [], []⟩

/-- A run that failed before its command began. -/
def Result.failed (e : Error) : Result := .early 1 (some (errorLine e))

/-- Prepares the collector of telemetry, if there is one, and connects the database. -/
def connect (s : Surroundings) (config : Config) : Except Error Database.Connection := do
  match config.otelEndpoint with
  | some address => Telemetry.Collector.prepare address
  | none => pure ()
  Database.connectTo s.network s.environment config.databaseUrl s.database

/-- Runs a command with its configuration. -/
def runConfigured (s : Surroundings) (config : Config) (command : Command) : Result :=
  match connect s config with
  | .error e => .failed e
  | .ok connection =>
    match (Database.migrate).exec connection.script with
    | (.error e, script) => { Result.failed e with migration := script.sent }
    | (.ok (), script) =>
      let start : World := ⟨⟨{ script with sent := [] }, none⟩, s.search, [], []⟩
      let (outcome, w) := work config (setupOf config) s command start
      let (exit, stdout, failure) : Nat × String × Option String :=
        match outcome with
        | .ok printed => (0, printed, none)
        | .error (.error e) => (1, "", some (errorLine e))
        | .error .panic => (101, "", none)
      ⟨exit, stdout, failure, [], script.sent, w.connection.script.sent, w.index.requests⟩

/-- Runs a command that was understood. -/
def runCommand (s : Surroundings) (command : Command) : Result :=
  match Config.fromEnvironment s.environment with
  | .error e => .failed e
  | .ok config =>
    match Telemetry.Filter.prepare? s.environment config.logLevel with
    | none => .early 101 none
    | some complaints => { runConfigured s config command with complaints }

/-- Runs the program. -/
def run (s : Surroundings) (arguments : List String) : Result :=
  match parse arguments with
  | .ok command => runCommand s command
  | .error (.help page) => { Result.early 0 none with stdout := page.text }
  | .error stop => .early 2 stop.message?

end Outbox.CommandLine
