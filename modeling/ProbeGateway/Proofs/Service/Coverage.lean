import ProbeGateway.Proofs.Pipeline.Coverage
import ProbeGateway.Proofs.Service.Routing
import ProbeGateway.Proofs.Service.Traffic

/-!
# Which requests the layers see

Whatever the method, the headers and the backends, a request with the path of a main route is seen
by all layers (`seenByLayers_of_isMainPath`). One with any other path that no probe has is seen by
none: it gets a bare answer and leaves nothing behind (`seenByLayers_iff`).
-/

namespace ProbeGateway

/-! ## Main routes -/

namespace App

theorem groupFor_eq_main {routes : List Route} (h : ∀ r ∈ routes, r.group = .main)
    (method : Method) : groupFor method routes = .main := by
  unfold groupFor
  cases hm : (methodRoute? method routes).or (anyRoute? routes) with
  | some route => exact h route (mem_of_methodRoute?_or hm)
  | none =>
    have hbare : (routes.any fun r => r.group = .bare) = false := by
      rw [List.any_eq_false]
      intro r hr
      rw [h r hr]
      decide
    simp [refusalGroup, hbare]

end App

namespace Api

variable (settings : ApiSettings) (env : Surroundings) {request : Request} {t : String}

theorem group_of_mem_routesAt (ht : t ∈ mainTemplates) :
    ∀ r ∈ (app settings).routesAt t, r.group = .main := by
  intro r hr
  obtain ⟨hmem, htemplate⟩ := List.mem_filter.mp hr
  rcases mem_routes hmem with ⟨template, -, action, rfl⟩ | ⟨template, hprobe, rfl⟩
  · rfl
  · have hdisjoint : ∀ p ∈ probeTemplates, p ∉ mainTemplates := by decide +kernel
    have he : template = t := of_decide_eq_true htemplate
    exact absurd (he ▸ ht) (hdisjoint template hprobe)

/-- A path that leads to the template of a main route is dispatched within the main group. -/
theorem dispatch?_of_leads {parts : List String} (h : Leads request.path t parts)
    (ht : t ∈ mainTemplates) :
    ∃ d, (app settings).dispatch? env request = some d ∧ d.group = .main := by
  refine ⟨_, App.dispatch?_of_choose (choose_eq_some_iff.mpr h), ?_⟩
  rw [App.dispatchAt_group]
  exact App.groupFor_eq_main (group_of_mem_routesAt settings ht) _

theorem dispatch?_eq_none (h : ∀ t parts, ¬ Leads request.path t parts) :
    (app settings).dispatch? env request = none := by
  unfold App.dispatch?
  cases hc : Template.choose request.path.toList ((app settings).routes.map (·.template)) with
  | none => rfl
  | some found => exact absurd (choose_eq_some_iff.mp hc) (h found.1 found.2)

/-! ## Handlers -/

theorem plain_ofResult (result : Except Failure Json) :
    (Outcome.answered (.ofResult result)).Plain := by
  cases result with
  | ok v => exact .value v
  | error e => exact .failed e

/-- Every request ends with a JSON value, with a failure, or with the refusal of its method. -/
theorem plain_of_dispatch? {d : Dispatch} (hd : (app settings).dispatch? env request = some d)
    (incoming : Incoming) (j : Journal) : ((d.handler incoming).run j).1.Plain := by
  rcases App.handler_of_dispatch? hd with ⟨route, hroute, he⟩ | he
  · rw [he]
    rcases mem_routes hroute with ⟨template, -, action, rfl⟩ | ⟨template, -, rfl⟩
    · exact plain_ofResult _
    · exact .value _
  · rw [he]
    exact .bare 405 [] []

/-! ## Requests -/

/-- A request with the path of a main route is seen by all layers. -/
theorem seenByLayers_of_isMainPath (hp : request.path ∉ probeTemplates)
    (hm : IsMainPath request.path) (j : Journal) :
    App.SeenByLayers ⟨settings.corsOrigin⟩ request j
      (((app settings).serve env request).run j) := by
  obtain ⟨t, ht, parts, hleads⟩ := (isMainPath_iff hp).mp hm
  obtain ⟨d, hd, hgroup⟩ := dispatch?_of_leads settings env hleads ht
  exact App.seenByLayers_serve_main hd hgroup ((app_ordinary settings).dispatch hd)
    (plain_of_dispatch? settings env hd _ _)

/-- Any other request is answered without a mark, and leaves nothing behind. -/
theorem serve_of_not_isMainPath (hp : request.path ∉ probeTemplates)
    (hm : ¬ IsMainPath request.path) (j : Journal) :
    ((app settings).serve env request).run j = (App.notFound, j) := by
  apply App.serve_run_none
  apply dispatch?_eq_none
  intro t parts hleads
  by_cases ht : t ∈ mainTemplates
  · exact hm ((isMainPath_iff hp).mpr ⟨t, ht, parts, hleads⟩)
  · -- What is left are the probes, whose templates are their paths.
    have hmem := (Template.fits_of_choose (choose_eq_some_iff.mpr hleads)).1
    have hprobe := (List.mem_append.mp hmem).resolve_left ht
    have hlit : ∀ t ∈ probeTemplates, ∀ o ∈ openTemplates, o.2 ≠ t := by decide +kernel
    generalize request.path = path at hp hleads
    cases hleads with
    | literal _ => exact hp hprobe
    | behind hopen _ => exact hlit t hprobe _ hopen rfl

/-- **Which requests pass the layers.** Of the requests that are for no probe, all layers see just
those with the path of a main route, whatever else there is to the request and to the backends. The
others get the answer of the framework to an unknown path, without a trace id, an allowed origin or
an envelope, and nothing is counted or logged. -/
theorem seenByLayers_iff (request : Request) (hp : request.path ∉ probeTemplates) (j : Journal) :
    let served := ((app settings).serve env request).run j
    (App.SeenByLayers ⟨settings.corsOrigin⟩ request j served ↔ IsMainPath request.path) ∧
    (¬ IsMainPath request.path → served = (⟨404, [(contentLength, "0")], [], none⟩, j)) := by
  intro served
  have hbare (hm : ¬ IsMainPath request.path) :
      served = (⟨404, [(contentLength, "0")], [], none⟩, j) := by
    rw [show served = _ from serve_of_not_isMainPath settings env hp hm j]
    rfl
  refine ⟨⟨fun hseen => ?_, fun hm => seenByLayers_of_isMainPath settings env hp hm j⟩, hbare⟩
  rcases Classical.em (IsMainPath request.path) with hm | hm
  · exact hm
  · -- A request that all layers see is counted.
    have hcounted := hseen.counted
    rw [hbare hm] at hcounted
    exact absurd hcounted (by simp)

/-- A path that begins like a main route and ends elsewhere is seen by no layer. -/
theorem seenByLayers_iff_unknown :
    let settings : ApiSettings := ⟨"https://dash.example", ⟨none, "", "", 10⟩, "http://[::1]:9090"⟩
    let request := Request.to ⟨"PUT"⟩ "/api/v1/healthy"
    let served := ((app settings).serve .quiet request).run {}
    request.path ∉ probeTemplates ∧ served = (⟨404, [(contentLength, "0")], [], none⟩, {}) ∧
      ¬ App.SeenByLayers ⟨settings.corsOrigin⟩ request {} served := by
  intro settings request served
  have hp : request.path ∉ probeTemplates := by decide +kernel
  have hm : ¬ IsMainPath request.path := by
    rw [isMainPath_iff hp]
    rintro ⟨t, -, parts, hleads⟩
    have := choose_eq_some_iff.mpr hleads
    rw [show Template.choose request.path.toList (mainTemplates ++ probeTemplates) = none by
      decide +kernel] at this
    exact absurd this (by simp)
  obtain ⟨hiff, hbare⟩ := seenByLayers_iff settings .quiet request hp {}
  exact ⟨hp, hbare hm, fun hseen => hm (hiff.mp hseen)⟩

end Api

end ProbeGateway
