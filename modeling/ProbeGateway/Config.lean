import ProbeGateway.Net.Address
import ProbeGateway.Number.Shortest
import ProbeGateway.Text.Blank

/-!
# Configuration

The settings of the service, read from named variables. A variable that is unset or blank has its
default, except the two credentials, which are taken as they stand. Values are checked in a fixed
order, and the first that is refused is reported with its name, its text and the reason.
-/

namespace ProbeGateway

/-- How lines of the log are written. -/
inductive LogFormat
  | json
  | text
deriving DecidableEq, Repr

namespace LogFormat

/-- The name of a format. -/
def name : LogFormat → String
  | json => "json"
  | text => "text"

end LogFormat

/-- How the backend that knows the alert rules is reached. -/
structure RulesBackend where
  /-- The base of its addresses; without one no query can be answered. -/
  url : Option String
  user : String
  password : String
  /-- Seconds after which a call is given up. -/
  timeout : Nat
deriving DecidableEq, Repr

/-- The settings of the service. -/
structure Config where
  apiHost : SocketAddress
  debugHost : SocketAddress
  corsOrigin : String
  rules : RulesBackend
  metricsUrl : String
  /-- Seconds after which a call of a backend is given up. -/
  backendTimeout : Nat
  /-- Seconds that requests in flight get when the service stops. -/
  shutdownTimeout : Nat
  /-- Where traces are reported, if anywhere. -/
  reporterUri : Option String
  /-- The share of traces that is reported. -/
  probability : Binary64
  logFormat : LogFormat
deriving DecidableEq, Repr

/-- Why a value is refused. -/
inductive ConfigFault
  | notAddress
  | notHeaderValue
  | notCount (fault : CountFault)
  | notPositive
  | notNumber
  | notShare
  | notLogFormat
deriving DecidableEq, Repr

/-- The wording of a reason. -/
def ConfigFault.message : ConfigFault → String
  | notAddress => "invalid socket address syntax"
  | notHeaderValue => "failed to parse header value"
  | notCount fault => fault.message
  | notPositive => "must be positive"
  | notNumber => "invalid float literal"
  | notShare => "must be between 0 and 1"
  | notLogFormat => "expected json or text"

/-- A variable whose value is refused. -/
structure ConfigError where
  name : String
  value : String
  fault : ConfigFault
deriving DecidableEq, Repr

namespace ConfigError

/-- The wording of a refusal. -/
def message (e : ConfigError) : String :=
  "invalid " ++ e.name ++ ": " ++ Quoted.quote e.value ++ ": " ++ e.fault.message

/-- A refusal with its parts named. -/
def debugText (e : ConfigError) : String :=
  "Invalid \x7b name: " ++ Quoted.quote e.name ++ ", value: " ++ Quoted.quote e.value ++
    ", reason: " ++ Quoted.quote e.fault.message ++ " \x7d"

end ConfigError

namespace Config

/-- The values of variables, by name. -/
abbrev Lookup := String → Option String

/-- The value of a variable unless it is blank. -/
def setting (lookup : Lookup) (name : String) : Option String :=
  (lookup name).filter fun s => !isAllBlank s

/-- The value of a variable, or its default where it is unset or blank. -/
def settingOr (lookup : Lookup) (name default : String) : String :=
  (setting lookup name).getD default

/-! ## Checking one value -/

/-- Whether a character may stand in the value of a header. -/
def isHeaderChar (c : Char) : Bool :=
  (0x20 ≤ c.toNat && c.toNat ≠ 0x7F) || c = '\t'

/-- Reads a socket address. -/
def readAddress (name value : String) : Except ConfigError SocketAddress :=
  match SocketAddress.parse? value with
  | some a => .ok a
  | none => .error ⟨name, value, .notAddress⟩

/-- Reads the value of a header. -/
def readHeaderValue (name value : String) : Except ConfigError String :=
  if value.toList.all isHeaderChar then .ok value else .error ⟨name, value, .notHeaderValue⟩

/-- Reads a positive number of seconds. -/
def readSeconds (name value : String) : Except ConfigError Nat :=
  match readCount wordLimit value with
  | .ok 0 => .error ⟨name, value, .notPositive⟩
  | .ok n => .ok n
  | .error fault => .error ⟨name, value, .notCount fault⟩

/-- Whether a number lies between zero and one. -/
def isShare (x : Binary64) : Bool :=
  (Binary64.zero false).le x && x.le (.ofNat 1)

/-- Reads a number between zero and one. -/
def readShare (name value : String) : Except ConfigError Binary64 :=
  match Binary64.parse? value with
  | some x => if isShare x then .ok x else .error ⟨name, value, .notShare⟩
  | none => .error ⟨name, value, .notNumber⟩

/-- Reads the name of a log format, in any case. -/
def readLogFormat (name value : String) : Except ConfigError LogFormat :=
  let word := String.ofList (value.toList.map Char.toLower)
  if word = "json" then .ok .json
  else if word = "text" then .ok .text
  else .error ⟨name, value, .notLogFormat⟩

/-! ## The whole configuration -/

/-- The configuration that variables hold. -/
def load (lookup : Lookup) : Except ConfigError Config := do
  let checked {α : Type} (read : String → String → Except ConfigError α) (name default : String) :=
    read name (settingOr lookup name default)
  let apiHost ← checked readAddress "API_HOST" "0.0.0.0:8080"
  let debugHost ← checked readAddress "DEBUG_HOST" "0.0.0.0:4000"
  let corsOrigin ← checked readHeaderValue "CORS_ORIGIN" "*"
  let backendTimeout ← checked readSeconds "BACKEND_TIMEOUT_SECS" "10"
  let shutdownTimeout ← checked readSeconds "SHUTDOWN_TIMEOUT_SECS" "20"
  let probability ← checked readShare "OTEL_PROBABILITY" "0.05"
  let logFormat ← checked readLogFormat "LOG_FORMAT" "json"
  .ok {
    apiHost, debugHost, corsOrigin, backendTimeout, shutdownTimeout, probability, logFormat
    rules := {
      url := setting lookup "GRAFANA_URL"
      user := (lookup "GRAFANA_USER").getD "admin"
      password := (lookup "GRAFANA_PASSWORD").getD "admin"
      timeout := backendTimeout }
    metricsUrl := settingOr lookup "PROMETHEUS_URL" "http://localhost:9090"
    reporterUri := setting lookup "OTEL_REPORTER_URI" }

end Config

end ProbeGateway
