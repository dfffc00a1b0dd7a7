import NestedTx.Command.Check
import NestedTx.Service

/-!
# The command

The command line, run against databases in memory: the files it names begin empty, and nothing
that it does lasts. Every report is a line of JSON.
-/

open NestedTx

/-- The variables of the environment that may stand in for options. -/
def NestedTx.Command.variables : List String :=
  ["TXNEST_DATABASE", "TXNEST_QUERY_TIMEOUT", "TXNEST_LOG_LEVEL", "TXNEST_JSON_LOGS"]

/-- Runs the command. -/
def main (args : List String) : IO UInt32 := do
  let values ← Command.variables.mapM fun name => IO.getEnv name
  let env := fun (name : String) => (List.lookup name (Command.variables.zip values)).join
  let files : Service := { Service.empty with directories := [[], ['/']] }
  let (ending, _) := (Command.run env args).runWith Service.hostReply files
  for report in ending.reports do
    IO.println report.toJson.render
  IO.eprint ending.complaint
  return UInt32.ofNat ending.exitCode
