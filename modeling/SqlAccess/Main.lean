import SqlAccess.CommandLine.Report
import SqlAccess.Driver.Unpopulated

/-!
# The program

Hands the words of the command line and the environment over and prints the report.
-/

namespace SqlAccess.CommandLine

/-- The variables that options are taken from, as far as they are set. -/
def readEnvironment : IO (List (String × String)) := do
  let names := Configuration.topGrammar.options.filterMap fun rule => rule.standIn
  let found ← names.mapM fun name => do
    return (← IO.getEnv name).map fun value => (name, value)
  return found.filterMap id

end SqlAccess.CommandLine

open SqlAccess in
/-- Print the report of a command line and give its exit code. -/
def main (words : List String) : IO UInt32 := do
  let environment ← CommandLine.readEnvironment
  let report := CommandLine.report environment words Driver.unpopulated
  IO.print report.output
  for line in report.errorLines do
    IO.eprintln line
  return report.exitCode.toUInt32
