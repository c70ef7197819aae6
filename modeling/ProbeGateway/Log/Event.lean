import ProbeGateway.Failure.Basic
import ProbeGateway.Text.Quoted

/-!
# Log events

Everything the service can say in its log, one constructor per statement. How a statement is worded
and which fields it has is decided here and nowhere else.
-/

namespace ProbeGateway

/-- How urgent an event is. -/
inductive LogLevel
  | debug
  | info
  | warn
  | error
deriving DecidableEq, Repr

/-- The name of a level. -/
def LogLevel.name : LogLevel → String
  | debug => "DEBUG"
  | info => "INFO"
  | warn => "WARN"
  | error => "ERROR"

/-- The value of a field of an event. -/
inductive FieldValue
  /-- A value shown by its text. -/
  | shown (text : String)
  /-- A string, which is quoted in a line of text. -/
  | quoted (text : String)
  | count (n : Nat)
  | real (x : Binary64)
deriving DecidableEq, Repr

/-- What the service says at its start. -/
structure StartNotice where
  version : String
  apiHost : String
  debugHost : String
  rulesUrl : String
  metricsUrl : String
  backendTimeout : Nat
deriving DecidableEq, Repr

/-- The signals that stop the service. -/
inductive Signal
  /-- An interrupt from the terminal. -/
  | interrupt
  | terminate
deriving DecidableEq, Repr

/-- The name of a signal in the log. -/
def Signal.name : Signal → String
  | interrupt => "CTRL+C"
  | terminate => "SIGTERM"

/-- A statement of the log. -/
inductive Event
  /-- The span that all events of a request belong to. -/
  | requestSpan (method route traceId : String)
  | requestStarted (method path remote : String)
  | requestCompleted (method path : String) (status : Nat)
  /-- A request failed; the failure is told with all its details. -/
  | requestFailed (failure : Failure)
  | rulesCallFailed (url : String) (failure : Failure)
  | queryWarning (query warning : String)
  | profileStarted (seconds : Nat) (format : String)
  | tracesExported (endpoint : String) (probability : Binary64)
  | starting (notice : StartNotice)
  | rulesUrlMissing
  | apiListening (address : String)
  | debugListening (address : String)
  /-- A signal cannot be waited for. -/
  | signalUnavailable (signal : Signal) (error : String)
  | signalReceived
  /-- The public listener is not served any more, and nobody asked for that. -/
  | leftEarly
  | drainStarted (seconds : Nat)
  | drainTimedOut
  | stopped
  | serverFailed (error : String)
deriving DecidableEq, Repr

namespace Event

/-- How urgent an event is. -/
def level : Event → LogLevel
  | rulesCallFailed .. => .debug
  | requestFailed .. | serverFailed .. | signalUnavailable .. => .error
  | queryWarning .. | rulesUrlMissing | leftEarly | drainTimedOut => .warn
  | _ => .info

/-- The words of an event. -/
def message : Event → String
  | requestSpan .. => "request"
  | requestStarted .. => "request started"
  | requestCompleted .. => "request completed"
  | requestFailed .. => "error handling request"
  | rulesCallFailed .. => "grafana rules request failed"
  | queryWarning .. => "prometheus query warning"
  | profileStarted .. => "cpu profile started"
  | tracesExported .. => "trace export enabled"
  | starting .. => "starting health-api"
  | rulesUrlMissing => "GRAFANA_URL not set, health and alert queries will fail"
  | apiListening .. => "api server listening"
  | debugListening .. => "debug server listening"
  | signalUnavailable signal _ => "failed to install " ++ signal.name ++ " handler"
  | signalReceived => "shutdown signal received"
  | leftEarly => "api server exited without a shutdown signal"
  | drainStarted .. => "shutdown started, draining requests"
  | drainTimedOut => "drain timed out, aborting remaining connections"
  | stopped => "shutdown complete"
  | serverFailed .. => "server error"

/-- The fields of an event, in order. -/
def fields : Event → List (String × FieldValue)
  | requestSpan method route traceId =>
    [("otel.name", .shown route), ("method", .shown method), ("route", .shown route),
      ("trace_id", .shown traceId)]
  | requestStarted method path remote =>
    [("method", .shown method), ("path", .shown path), ("remote", .shown remote)]
  | requestCompleted method path status =>
    [("method", .shown method), ("path", .shown path), ("status", .count status)]
  | requestFailed failure =>
    [("code", .shown failure.kind.name), ("message", .quoted failure.message),
      ("source", .shown failure.site)]
  | rulesCallFailed url failure => [("url", .shown url), ("error", .shown failure.describe)]
  | queryWarning query warning => [("query", .shown query), ("warning", .shown warning)]
  | profileStarted seconds format => [("seconds", .count seconds), ("format", .shown format)]
  | tracesExported endpoint probability =>
    [("endpoint", .shown endpoint), ("probability", .real probability)]
  | starting n =>
    [("version", .quoted n.version), ("api_host", .shown n.apiHost),
      ("debug_host", .shown n.debugHost), ("grafana", .quoted n.rulesUrl),
      ("prometheus", .shown n.metricsUrl), ("backend_timeout_secs", .count n.backendTimeout)]
  | apiListening address | debugListening address => [("addr", .shown address)]
  | drainStarted seconds => [("timeout_secs", .count seconds)]
  | serverFailed error | signalUnavailable _ error => [("error", .shown error)]
  | rulesUrlMissing | signalReceived | leftEarly | drainTimedOut | stopped => []

/-- Whether an event opens a span and is no statement of its own. -/
def isSpan : Event → Bool
  | requestSpan .. => true
  | _ => false

/-- The part of the service that an event comes from. -/
def target : Event → String
  | starting .. | serverFailed .. => "health_api"
  | tracesExported .. => "health_api::telemetry"
  | rulesUrlMissing | apiListening .. | debugListening .. | signalUnavailable .. | signalReceived
  | leftEarly | drainStarted .. | drainTimedOut | stopped => "health_api::api::server"
  | profileStarted .. => "health_api::api::debug::profile"
  | requestSpan .. => "health_api::web::mid::trace"
  | requestStarted .. | requestCompleted .. => "health_api::web::mid::logger"
  | requestFailed .. => "health_api::web::mid::errors"
  | rulesCallFailed .. => "health_api::health::grafana"
  | queryWarning .. => "health_api::query"

end Event

/-! ## Lines -/

namespace FieldValue

/-- A value as JSON. -/
def json : FieldValue → Json
  | shown s | quoted s => .text s
  | count n => .nat n
  | real x => .number (.real x)

/-- A value in a line of text. -/
def text : FieldValue → String
  | shown s => s
  | quoted s => Quoted.quote s
  | count n => decimal n
  | real x => NumberStyle.logField.text x

end FieldValue

namespace Event

/-- An event as JSON, without its time. -/
def json (e : Event) : Json :=
  .object [("level", .text e.level.name),
    ("fields", .object (("message", .text e.message) ::
      e.fields.map fun f => (f.1, f.2.json))),
    ("target", .text e.target)]

/-- An event as a line of text, without its time. -/
def line (e : Event) : String :=
  e.level.name ++ " " ++ e.target ++ ": " ++ e.message ++
    String.join (e.fields.map fun f => " " ++ f.1 ++ "=" ++ f.2.text)

end Event

end ProbeGateway
