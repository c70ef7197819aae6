import ProbeGateway.Log.Filter
import ProbeGateway.Service.LifeCycle

/-!
# The program

The program takes its configuration from the environment, tells what it starts with, runs the
service and ends with a status. Its log goes through a filter to the standard output, one line per
event; a failure to start goes to the standard error.
-/

namespace ProbeGateway.Program

/-- The variables that the program looks up. -/
def environmentNames : List String :=
  ["API_HOST", "DEBUG_HOST", "CORS_ORIGIN", "GRAFANA_URL", "GRAFANA_USER", "GRAFANA_PASSWORD",
    "PROMETHEUS_URL", "BACKEND_TIMEOUT_SECS", "SHUTDOWN_TIMEOUT_SECS", "OTEL_REPORTER_URI",
    "OTEL_PROBABILITY", "LOG_FORMAT", "RUST_LOG"]

/-! ## The log -/

/-- What the program starts with. -/
def notice (config : Config) : StartNotice where
  version := serviceVersion
  apiHost := config.apiHost.text
  debugHost := config.debugHost.text
  rulesUrl := config.rules.url.getD "-"
  metricsUrl := config.metricsUrl
  backendTimeout := config.backendTimeout

/-- An event in a format. -/
def lineOf : LogFormat → Event → String
  | .json, e => e.json.render
  | .text, e => e.line

/-- The lines that a filter lets through. -/
def linesOf (format : LogFormat) (filter : LogFilter) (events : List Event) : List String :=
  (events.filter filter.allows).map (lineOf format)

/-- The filter that the environment asks for. -/
def filterOf (lookup : Config.Lookup) : LogFilter := .ofSetting (lookup "RUST_LOG")

/-! ## Start and end -/

/-- Tells where traces are reported, if anywhere. -/
def tellReporter (config : Config) : Action Unit :=
  match config.reporterUri with
  | some endpoint => Journal.log (.tracesExported endpoint config.probability)
  | none => pure ()

/-- Tells why the server ended, if it failed. -/
def tellFailure : Except BindFault Unit → Action Unit
  | .ok () => pure ()
  | .error fault => Journal.log (.serverFailed fault.message)

/-- Starts the service. -/
def start (config : Config) (bindFault? : SocketAddress → Option BindFault) :
    Action (Except BindFault Unit) := do
  tellReporter config
  Journal.log (.starting (notice config))
  let result ← Service.start config.service bindFault?
  tellFailure result
  return result

/-- Stops the service while no request is in flight. -/
def stop (config : Config) : Action (Except BindFault Unit) := do
  let ending ← Service.work config.service [] []
  tellFailure ending.result
  return ending.result

/-- Runs the service from its start to a signal. -/
def session (config : Config) (bindFault? : SocketAddress → Option BindFault) :
    Action (Except BindFault Unit) := do
  match ← start config bindFault? with
  | .error fault => return .error fault
  | .ok () => stop config

/-! ## What the program leaves -/

/-- What can be seen of a run. -/
structure Report where
  status : Nat
  /-- The lines on the standard output. -/
  output : List String
  /-- The text on the standard error. -/
  errors : String
deriving DecidableEq, Repr

/-- The text for a failure to start. -/
def complaint (debugText : String) : String := "Error: " ++ debugText ++ "\n"

/-- The report of a run that failed before it could log. -/
def refused (e : ConfigError) : Report := ⟨1, [], complaint e.debugText⟩

/-- The report of a result and the lines that were logged. -/
def report (lines : List String) : Except BindFault Unit → Report
  | .ok () => ⟨0, lines, ""⟩
  | .error fault => ⟨1, lines, complaint fault.debugText⟩

/-- Runs the program. -/
def run (lookup : Config.Lookup) (bindFault? : SocketAddress → Option BindFault) : Report :=
  match Config.load lookup with
  | .error e => refused e
  | .ok config =>
    let (result, journal) := (session config bindFault?).run {}
    report (linesOf config.logFormat (filterOf lookup) journal.events) result

end ProbeGateway.Program
