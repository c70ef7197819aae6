import ProbeGateway.Service.Program

/-!
# Command line

Reads the environment, starts the service, and stops it when its standard input ends.
-/

namespace ProbeGateway

/-- The variables that are set. -/
def readEnvironment : IO Config.Lookup := do
  let values ← Program.environmentNames.mapM fun name => return (name, ← IO.getEnv name)
  return fun name => (values.lookup name).join

/-- Writes lines to the standard output. -/
def writeLines (lines : List String) : IO Unit := do
  let output ← IO.getStdout
  for line in lines do output.putStrLn line
  output.flush

/-- Waits for the standard input to end. -/
def waitForEnd : IO Unit := do
  let _ ← (← IO.getStdin).readToEnd

/-- Runs the service between its start and the end of the input. -/
def serveUntilEnd (config : Config) (filter : LogFilter) : IO UInt32 := do
  let finish (journal : Journal) (result : Except BindFault Unit) : IO UInt32 := do
    let report := Program.report (Program.linesOf config.logFormat filter journal.events) result
    writeLines report.output
    IO.eprint report.errors
    return report.status.toUInt32
  match (Program.start config fun _ => none).run {} with
  | (.error fault, journal) => finish journal (.error fault)
  | (.ok (), journal) =>
    writeLines (Program.linesOf config.logFormat filter journal.events)
    waitForEnd
    let (result, journal) := (Program.stop config).run {}
    finish journal result

/-- Runs the program. -/
def runProgram : IO UInt32 := do
  let lookup ← readEnvironment
  match Config.load lookup with
  | .error e =>
    IO.eprint (Program.refused e).errors
    return 1
  | .ok config => serveUntilEnd config (Program.filterOf lookup)

end ProbeGateway

/-- Reads the environment, runs the service, and ends with a status. -/
def main : IO UInt32 := ProbeGateway.runProgram
