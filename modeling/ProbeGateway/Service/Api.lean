import ProbeGateway.Backend.Query
import ProbeGateway.Health.Store
import ProbeGateway.Pipeline.App
import ProbeGateway.Text.Percent

/-!
# The public application

Main routes answer with health checks, alerts and the results of metric queries; bare routes tell
that the process is alive, without layers and without a look at the backends. A target or a metric
is everything behind its route, percent-decoded, and may hold slashes.
-/

namespace ProbeGateway

/-- What the public application is set up with. -/
structure ApiSettings where
  corsOrigin : String
  rules : RulesBackend
  metricsUrl : String
deriving DecidableEq, Repr

/-- The settings of the public application in a configuration. -/
def Config.api (config : Config) : ApiSettings :=
  ⟨config.corsOrigin, config.rules, config.metricsUrl⟩

/-- A handler that answers with JSON or with a failure. -/
def Handler.ofResult (action : Incoming → Action (Except Failure Json)) : Handler :=
  fun incoming => return .answered (.ofResult (← action incoming))

namespace Api

/-! ## Answers -/

/-- What the path has behind the route, percent-decoded; empty if nothing is there or it is not
UTF-8. -/
def parameter (incoming : Incoming) : String :=
  (incoming.parts.head?.bind Percent.segmentText?).getD ""

/-- The store that a request is answered from. -/
def store (settings : ApiSettings) (env : Surroundings) : HealthStore :=
  RulesStore.store settings.rules env

/-- All health checks. -/
def checks (settings : ApiSettings) (env : Surroundings) : Action (Except Failure Json) := do
  return (← (store settings env).queryChecks).map HealthSummary.json

/-- The health check of a target. -/
def check (settings : ApiSettings) (env : Surroundings) (target : String) :
    Action (Except Failure Json) :=
  if target = "" then pure (.error (.invalidArgument "target parameter required"))
  else do return (← (store settings env).queryCheck target).map HealthCheck.json

/-- All alerts. -/
def alerts (settings : ApiSettings) (env : Surroundings) : Action (Except Failure Json) := do
  return (← (store settings env).queryAlerts).map AlertSummary.json

/-- A metric and its result as JSON. -/
def metricJson (metric : String) (outcome : QueryOutcome) : Json :=
  .object [("metric", .text metric), ("result", outcome.result)]

/-- The result of a metric query. -/
def metric (settings : ApiSettings) (env : Surroundings) (expr : String) :
    Action (Except Failure Json) :=
  if expr = "" then pure (.error (.invalidArgument "metric parameter required"))
  else do return (← Query.run settings.metricsUrl env expr).map (metricJson expr)

/-- What a probe answers. -/
def alive : Json := .object [("status", .text "ok")]

/-! ## Routes -/

/-- The template of all health checks. -/
def healthTemplate : String := "/api/v1/health"

/-- The template of a health check whose target is missing. -/
def noTargetTemplate : String := "/api/v1/health/"

/-- The template of the health check of a target. -/
def targetTemplate : String := "/api/v1/health/*target"

/-- The template of all alerts. -/
def alertsTemplate : String := "/api/v1/alerts"

/-- The template of a metric query whose metric is missing. -/
def noMetricTemplate : String := "/api/v1/metrics/"

/-- The template of a metric query. -/
def metricTemplate : String := "/api/v1/metrics/*metric"

/-- The templates of the main routes. -/
def mainTemplates : List String :=
  [healthTemplate, noTargetTemplate, targetTemplate, alertsTemplate, noMetricTemplate,
    metricTemplate]

/-- The templates of the probes. -/
def probeTemplates : List String := ["/liveness", "/readiness", "/healthz"]

/-- A main route that fetches something. -/
def fetching (template : String)
    (action : Surroundings → Incoming → Action (Except Failure Json)) : Route :=
  ⟨.main, template, some .get, fun env => .ofResult (action env)⟩

/-- A probe. -/
def probe (template : String) : Route :=
  ⟨.bare, template, some .get, fun _ _ => return .answered (.ofJson alive)⟩

/-- The routes of the public application. -/
def routes (settings : ApiSettings) : List Route :=
  [fetching healthTemplate fun env _ => checks settings env,
    fetching noTargetTemplate fun env incoming => check settings env (parameter incoming),
    fetching targetTemplate fun env incoming => check settings env (parameter incoming),
    fetching alertsTemplate fun env _ => alerts settings env,
    fetching noMetricTemplate fun env incoming => metric settings env (parameter incoming),
    fetching metricTemplate fun env incoming => metric settings env (parameter incoming)] ++
  probeTemplates.map probe

/-- The public application. -/
def app (settings : ApiSettings) : App := ⟨⟨settings.corsOrigin⟩, routes settings⟩

/-- The templates of the routes, in order. -/
theorem routes_templates (settings : ApiSettings) :
    (routes settings).map (·.template) = mainTemplates ++ probeTemplates := rfl

end Api

end ProbeGateway
