import ProbeGateway.Proofs.Pipeline.Coverage
import ProbeGateway.Proofs.Pipeline.Footprint
import ProbeGateway.Proofs.Pipeline.Shape

/-!
# Requests from another origin

Every response of the main group names the configured origin, and no other. A preflight question is
settled by the layers alone.

1. Its answer holds all that is allowed (`values_preflight_methods`, `values_preflight_headers`),
   and the outer layers keep it (`told_serve_preflight`).
2. Applications of one shape answer it alike and leave the same behind, whatever their handlers do
   (`serve_preflight_congr`).
3. It calls no backend, and all that it counts is one request (`counted_serve_preflight`).
-/

namespace ProbeGateway

namespace Layer

variable (settings : PipelineSettings)

theorem values_preflight_methods :
    (preflight settings).headers.values allowMethodsHeader = [allowedMethods] := by
  unfold preflight
  rw [Headers.values_cons_of_ne (by decide +kernel), Headers.values_cons_of_ne (by decide +kernel),
    Headers.values_cons_self, Headers.values_cons_of_ne (by decide +kernel), Headers.values_nil]

theorem values_preflight_headers :
    (preflight settings).headers.values allowHeadersHeader = [allowedHeaders] := by
  unfold preflight
  rw [Headers.values_cons_of_ne (by decide +kernel), Headers.values_cons_of_ne (by decide +kernel),
    Headers.values_cons_of_ne (by decide +kernel), Headers.values_cons_self, Headers.values_nil]

end Layer

/-- A preflight question succeeds, and a success is settled as it is. -/
theorem Dispatch.settled_preflight {d : Dispatch} (h : d.incoming.request.method = .options)
    (settings : PipelineSettings) (env : Surroundings) (j : Journal) :
    Layer.settled (d.innermost settings env j).1 = Layer.preflight settings := by
  rw [innermost_options settings env h]
  exact Layer.settled_of_not_isFailure rfl

namespace App

variable {app app' : App} {env : Surroundings} {request : Request} {d : Dispatch}

/-! ## Preflight questions -/

section Preflight

variable (h : app.dispatch? env request = some d) (hd : d.group = .main)
  (hm : request.method = .options) (j : Journal)

include h hd hm

/-- The client is told all that is allowed. -/
theorem told_serve_preflight :
    let r := ((app.serve env request).run j).1
    r.status = 200 ∧ r.body = [] ∧
      r.headers.values allowMethodsHeader = [Layer.allowedMethods] ∧
      r.headers.values allowHeadersHeader = [Layer.allowedHeaders] := by
  have hhead : request.method ≠ .head := by
    rw [hm]
    decide
  have hoptions : d.incoming.request.method = .options := by rw [dispatch?_request h, hm]
  have hsettled := Dispatch.settled_preflight hoptions app.settings env j
  refine ⟨?_, ?_, ?_, ?_⟩
  · rw [status_serve_main h hd, hsettled]
    rfl
  · rw [body_serve_main h hd hhead, hsettled]
    rfl
  · rw [values_serve_main h hd (by decide +kernel) (by decide +kernel) (by decide +kernel),
      hsettled]
    exact Layer.values_preflight_methods app.settings
  · rw [values_serve_main h hd (by decide +kernel) (by decide +kernel) (by decide +kernel),
      hsettled]
    exact Layer.values_preflight_headers app.settings

/-- **Handlers have no part in a preflight question.** -/
theorem serve_preflight_congr (hs : app.SameShape app') :
    (app'.serve env request).run j = (app.serve env request).run j := by
  have hrefl : ∀ r r' : Route, r.SameShape r' → r.SameShape r' := fun _ _ hr => hr
  have halike := dispatch?_alike env hs.routes hrefl request
  rw [h] at halike
  generalize hd' : app'.dispatch? env request = o' at halike
  cases halike with
  | @some _ d' hdd =>
    obtain ⟨hgroup, hmanner, hincoming⟩ := hdd.same hrefl
    have hoptions : d.incoming.request.method = .options := by rw [dispatch?_request h, hm]
    have hoptions' : d'.incoming.request.method = .options := by rw [← hincoming, hoptions]
    have hmain : d'.group = .main := by rw [← hgroup, hd]
    rw [serve_run_main h hd, serve_run_main hd' hmain, Dispatch.innermost_options _ _ hoptions,
      Dispatch.innermost_options _ _ hoptions', hs.settings, hmanner, hincoming]

/-- A preflight question is counted as a request, and as no failure. -/
theorem counted_serve_preflight :
    let m := ((app.serve env request).run j).2.metrics
    m.requests = j.metrics.requests + 1 ∧ m.errors = j.metrics.errors ∧
      m.httpErrors = j.metrics.httpErrors ∧ m.panics = j.metrics.panics ∧
      m.panicsTotal = j.metrics.panicsTotal := by
  have hmetrics : ((app.serve env request).run j).2.metrics =
      (Layer.measured env d.incoming (Layer.preflight app.settings)).complete j.metrics :=
    (leaves_serve_preflight h hd hm).metrics j
  rw [hmetrics, Recording.complete_record]
  exact ⟨rfl, rfl, rfl, rfl, rfl⟩

theorem calls_serve_preflight : ((app.serve env request).run j).2.calls = j.calls := by
  rw [(leaves_serve_preflight h hd hm).calls j, List.append_nil]

end Preflight

/-! ## All requests -/

/-- **The allowed origin on every path.** Every response of the main group allows the configured
origin and no other, whatever its handler does. A preflight question is answered with nothing but
what is allowed, and an application of the same shape with any other handlers gives that answer and
leaves the same behind; no backend is called, and nothing but one request is counted. -/
theorem allowed_origin_everywhere (hd : app.dispatch? env request = some d) (hg : d.group = .main)
    (j : Journal) :
    let served := (app.serve env request).run j
    let before := j.metrics
    let after := served.2.metrics
    served.1.headers.values "access-control-allow-origin" = [app.settings.corsOrigin] ∧
    (request.method = .options →
      (served.1.status = 200 ∧ served.1.body = [] ∧
        served.1.headers.values "access-control-allow-methods" = ["GET,POST,PUT,DELETE,OPTIONS"] ∧
        served.1.headers.values "access-control-allow-headers" = ["content-type,authorization"]) ∧
      (∀ app' : App, app.SameShape app' → (app'.serve env request).run j = served) ∧
      served.2.calls = j.calls ∧
      after.requests = before.requests + 1 ∧ after.errors = before.errors ∧
        after.httpErrors = before.httpErrors ∧ after.panics = before.panics ∧
        after.panicsTotal = before.panicsTotal) := by
  intro served before after
  refine ⟨values_allowOrigin_serve_main hd hg j, fun hm => ?_⟩
  refine ⟨told_serve_preflight hd hg hm j, fun app' hs => ?_, calls_serve_preflight hd hg hm j,
    counted_serve_preflight hd hg hm j⟩
  exact serve_preflight_congr hd hg hm j hs

/-- Samples have one shape. -/
theorem sample_sameShape (detail detail' : String) (payload payload' : PanicPayload) :
    (sample detail payload).SameShape (sample detail' payload') where
  settings := rfl
  routes := by
    have hshape (group : RouteGroup) (template : String) (method : Option Method)
        (handler handler' : Surroundings → Handler) :
        Route.SameShape ⟨group, template, method, handler⟩ ⟨group, template, method, handler'⟩ :=
      ⟨rfl, rfl, rfl⟩
    exact .cons (hshape ..) (.cons (hshape ..) (.cons (hshape ..) (.cons (hshape ..)
      (.cons (hshape ..) .nil))))

/-- A handler that breaks off is not asked what may be asked; where it is reached, the answer still
allows the origin. -/
theorem allowed_origin_everywhere_boom :
    let app := sample "" .other
    let asked := (app.serve .quiet (.to .options "/boom")).run {}
    let broken := (app.serve .quiet (.to .get "/boom")).run {}
    asked.1.headers.values "access-control-allow-origin" = ["https://dash.example"] ∧
      broken.1.headers.values "access-control-allow-origin" = ["https://dash.example"] ∧
      asked.1.status = 200 ∧ asked.1.body = [] ∧
      asked.2.metrics.requests = 1 ∧ asked.2.metrics.panics = 0 ∧ asked.2.calls = [] ∧
      ((sample "" (.message "gone")).serve .quiet (.to .options "/boom")).run {} = asked := by
  intro app asked broken
  have hasked : app.dispatch? .quiet (.to .options "/boom") = some _ :=
    dispatch?_of_choose (show Template.choose _ _ = some ("/boom", []) by decide +kernel)
  have hbroken : app.dispatch? .quiet (.to .get "/boom") = some _ :=
    dispatch?_of_choose (show Template.choose _ _ = some ("/boom", []) by decide +kernel)
  obtain ⟨horigin, hpreflight⟩ := allowed_origin_everywhere hasked (by decide +kernel) {}
  obtain ⟨horigin', -⟩ := allowed_origin_everywhere hbroken (by decide +kernel) {}
  obtain ⟨⟨hstatus, hbody, -, -⟩, hsame, hcalls, hrequests, -, -, hpanics, -⟩ := hpreflight rfl
  exact ⟨horigin, horigin', hstatus, hbody, hrequests, hpanics, hcalls,
    hsame _ (sample_sameShape "" "" .other (.message "gone"))⟩

end App

end ProbeGateway
