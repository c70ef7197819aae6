import ProbeGateway.Backend.Url
import ProbeGateway.Config
import ProbeGateway.Health.Rules
import ProbeGateway.Journal
import ProbeGateway.Json.Reader
import ProbeGateway.Text.Base64

/-!
# Stores of health checks

A store answers three questions: all checks, the check of one target, and all alerts. The store of
this service asks the backend with the alert rules, and fetches and reads the same payload for each
of the three.
-/

namespace ProbeGateway

/-- Where health checks and alerts come from. -/
structure HealthStore where
  checks : Action (Except Failure (List HealthCheck))
  check : (target : String) → Action (Except Failure HealthCheck)
  alerts : Action (Except Failure AlertSummary)

namespace RulesStore

/-- The path of the rules under the base address. -/
def rulesPath : String := "/api/prometheus/grafana/api/v1/rules"

/-- The header value with a user and a password; there is none unless both are non-empty. -/
def authorization? (backend : RulesBackend) : Option String :=
  if backend.user = "" ∨ backend.password = "" then none
  else some ("Basic " ++ String.ofList
    (Base64.encode (octets (backend.user ++ ":" ++ backend.password))))

/-- The payload in the body of an answer: an object, or nothing at all. -/
def payloadOf (body : Bytes) : Except Failure Json :=
  match Json.parse body with
  | .ok (.object members) => .ok (.object members)
  | .ok .null => .ok .null
  | .ok _ => .error (.internal "decoding state response: expected a JSON object")
  | .error e => .error (.internal ("decoding state response: " ++ e.message))

/-- What an exchange brought: the payload, or the failure of the exchange. -/
def receive : Exchange → Except Failure Json
  | .failed _ fault => .error (fault.failure "querying alert state")
  | .answered status body =>
    if Http.isSuccess status then payloadOf body
    else .error (.unavailable ("grafana returned status " ++ decimal status))
  | .brokenOff status fault =>
    if Http.isSuccess status then .error (fault.failure "reading alert state")
    else .error (.unavailable ("grafana returned status " ++ decimal status))

/-- An address that cannot be called. -/
def unusable : TransportFault := ⟨false, "builder error"⟩

/-- Calls an address and returns what the exchange brought. -/
def call (backend : RulesBackend) (env : Surroundings) (address : String) :
    Action (Except Failure Json) :=
  match Url.parse? address with
  | none => pure (receive (.failed false unusable))
  | some url => do
    Journal.noteCall
      ⟨.rules, url, authorization? backend, env.rulesRedirects, env.rules.seen⟩
    pure (receive env.rules)

/-- Logs a failed fetch. -/
def logFailure (address : String) : Except Failure Json → Action Unit
  | .ok _ => pure ()
  | .error e => Journal.log (.rulesCallFailed address e)

/-- The base address, unless it is missing or empty. -/
def base? (backend : RulesBackend) : Option String := backend.url.filter fun url => url ≠ ""

/-- Fetches the payload, and records what came of it. -/
def fetch (backend : RulesBackend) (env : Surroundings) : Action (Except Failure Json) :=
  match base? backend with
  | none => pure (.error (.unavailable "grafana not configured"))
  | some base => do
    let address := Url.under base rulesPath
    let result ← call backend env address
    Journal.count (.recordBackend Backend.rules.name Backend.rules.endpoint
      (Metrics.outcome result) env.elapsed)
    logFailure address result
    pure result

/-- All checks of a payload. -/
def checksOf (now : Instant) (payload : Json) : List HealthCheck :=
  Rule.checks now (Rule.ofPayload payload)

/-- The first check of a target in a payload. -/
def checkOf (now : Instant) (target : String) (payload : Json) : Except Failure HealthCheck :=
  match (checksOf now payload).find? (·.target = target) with
  | some check => .ok check
  | none => .error (.notFound ("target not found: " ++ target))

/-- All alerts of a payload. -/
def alertsOf (payload : Json) : AlertSummary :=
  .ofAlerts ((Rule.ofPayload payload).map Rule.alert)

/-- The store over a backend with alert rules. -/
def store (backend : RulesBackend) (env : Surroundings) : HealthStore where
  checks := do return (← fetch backend env).map (checksOf env.now)
  check target := do return (← fetch backend env).bind (checkOf env.now target)
  alerts := do return (← fetch backend env).map alertsOf

end RulesStore

/-! ## Queries that are counted -/

namespace HealthStore

/-- Records what came of a query. -/
def record {α : Type} (operation : String) (result : Except Failure α) : Action Unit :=
  Journal.count (.recordHealthQuery operation (Metrics.outcome result))

/-- All checks, with the number of targets in each state. -/
def queryChecks (store : HealthStore) : Action (Except Failure HealthSummary) := do
  let checks ← store.checks
  record "health_checks" checks
  return checks.map HealthSummary.ofChecks

/-- The check of one target. -/
def queryCheck (store : HealthStore) (target : String) : Action (Except Failure HealthCheck) := do
  let check ← store.check target
  record "health_check_by_target" check
  return check

/-- All alerts. -/
def queryAlerts (store : HealthStore) : Action (Except Failure AlertSummary) := do
  let alerts ← store.alerts
  record "alerts" alerts
  return alerts

end HealthStore

end ProbeGateway
