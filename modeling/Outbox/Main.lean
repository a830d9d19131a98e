import Outbox.CommandLine.Run

/-!
# The program

Arguments and environment go in, text and an exit code come out.  The program opens no connection of
its own, so a command that gets as far as its database finds the network unreachable.
-/

namespace Outbox.CommandLine

/-- The variables that the program looks at. -/
def variableNames : List String := [
  "SYNC_TASK_LIMIT", "PRIMARY_TABLE", "INDEX_MAX_RETRIES", "INDEX_RETRY_START_MS",
  "INDEX_RETRY_STEP_MS", "INDEX_RETRY_MAX_MS", "DATABASE_URL", "SEARCH_URL", "SEARCH_INDEX",
  "SEARCH_API_KEY", "SEARCH_REINDEX_TARGET", "POLL_INTERVAL_SECS", "OTEL_ENDPOINT", "LOG_LEVEL",
  Telemetry.Filter.variableName, Database.Endpoint.numberVariable] ++ Database.Endpoint.hostVariables

/-- Reads the environment. -/
def readEnvironment : IO Environment := do
  let values ← variableNames.mapM fun name => do
    let value ← IO.getEnv name
    pure (value.map fun v => (name, Text.Utf8.encode v))
  pure (values.filterMap id)

end Outbox.CommandLine

open Outbox

/-- Runs the command that the arguments ask for. -/
def main (arguments : List String) : IO UInt32 := do
  let environment ← CommandLine.readEnvironment
  let result := CommandLine.run {
      environment
      network := Network.offline
      database := .ofReplies [] []
      search := .ofReplies false []
      now := ⟨0, 0⟩
      ticks := 1 } arguments
  IO.print result.stdout
  for line in result.complaints ++ result.failure.toList do
    IO.eprintln line
  pure (UInt32.ofNat result.exit)
