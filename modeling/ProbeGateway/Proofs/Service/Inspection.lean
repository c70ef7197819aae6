import ProbeGateway.Proofs.Http.Template
import ProbeGateway.Proofs.Pipeline.Dispatch
import ProbeGateway.Service.Inspection

/-!
# What the inspection shows

A question for what a route shows is answered by the handler of the route (`dispatch?_of_mem`). The
plain counters are shown as they are, and showing them leaves nothing behind (`vars_shown`). No
request changes the metrics (`keepsMetrics_serve`).
-/

namespace ProbeGateway

/-- A step leaves the metrics as they are. -/
def Action.KeepsMetrics {α : Type} (x : Action α) : Prop :=
  ∀ j, (x.run j).2.metrics = j.metrics

namespace Inspection

variable (env : Surroundings) {request : Request}

/-! ## Routes -/

/-- Each template has one route, which is bare and fetches. -/
theorem routesAt_of_mem {route : Route} (h : route ∈ routes) :
    app.routesAt route.template = [route] ∧ route.method = some .get ∧ route.group = .bare := by
  simp only [routes, List.mem_cons, List.not_mem_nil, or_false] at h
  rcases h with rfl | rfl | rfl
  all_goals exact ⟨rfl, rfl, rfl⟩

/-- A path that is a template goes to it. -/
theorem choose_of_mem {route : Route} (h : route ∈ routes) :
    Template.choose route.template.toList (app.routes.map (·.template)) =
      some (route.template, []) := by
  simp only [routes, List.mem_cons, List.not_mem_nil, or_false] at h
  rcases h with rfl | rfl | rfl
  all_goals decide +kernel

/-- What a route shows is fetched from its handler, without layers. -/
theorem dispatch?_of_mem {route : Route} (hroute : route ∈ routes)
    (hm : request.method.fetches = true) (hp : request.path = route.template) :
    app.dispatch? env request =
      some ⟨.bare, route.handler env, .byMethod, ⟨request, route.template, [], none⟩⟩ := by
  obtain ⟨hroutes, hmethod, hbare⟩ := routesAt_of_mem hroute
  have hchoose : Template.choose request.path.toList (app.routes.map (·.template)) =
      some (route.template, []) := by
    rw [hp]
    exact choose_of_mem hroute
  rw [App.dispatch?_of_choose hchoose, App.dispatchAt_fetches hroutes hmethod hm, hbare]

/-- Whatever answers a request, no layers are around it. It is the handler of a route, or refuses
the method. -/
theorem bare_of_dispatch? {d : Dispatch} (hd : app.dispatch? env request = some d) :
    d.group = .bare ∧ ((∃ route ∈ routes, d.handler = route.handler env) ∨
      d.handler = App.notAllowed) := by
  unfold App.dispatch? at hd
  obtain ⟨⟨template, parts⟩, hfound, rfl⟩ := Option.map_eq_some_iff.mp hd
  obtain ⟨route, hroute, rfl⟩ := List.mem_map.mp (Template.fits_of_choose hfound).1
  obtain ⟨hroutes, hmethod, hbare⟩ := routesAt_of_mem hroute
  cases hm : request.method.fetches with
  | true =>
    rw [App.dispatchAt_fetches hroutes hmethod hm]
    exact ⟨hbare, .inl ⟨route, hroute, rfl⟩⟩
  | false =>
    rw [App.dispatchAt_refuses hroutes hmethod hm]
    exact ⟨hbare, .inr rfl⟩

/-! ## Counters -/

/-- The counters are shown, and nothing is left behind. -/
theorem vars_shown (hm : request.method = .get) (hp : request.path = "/debug/vars") (j : Journal) :
    let served := (app.serve env request).run j
    served.1.status = 200 ∧ served.1.body = (varsJson j.metrics.snapshot).body ∧ served.2 = j := by
  intro served
  have hdispatch := dispatch?_of_mem env (.head _) (by rw [hm]; decide) hp
  have hserved : served = (Manner.finish request.method .byMethod
      (.ofJson (varsJson j.metrics.snapshot)), j) := App.serve_run_some hdispatch j
  have hhead : request.method ≠ .head := by
    rw [hm]
    decide
  rw [hserved]
  exact ⟨Manner.finish_status _ _ _, Manner.finish_body _ _ hhead, rfl⟩

/-! ## Metrics -/

/-- The handlers only read the metrics; at most a profile is logged. -/
theorem keepsMetrics_handler {route : Route} (hroute : route ∈ routes) (incoming : Incoming) :
    Action.KeepsMetrics (route.handler env incoming) := by
  simp only [routes, List.mem_cons, List.not_mem_nil, or_false] at hroute
  rcases hroute with rfl | rfl | rfl
  · exact fun _ => rfl
  · exact fun _ => rfl
  · intro j
    dsimp only
    unfold profile
    split
    · rfl
    · split <;> rfl

/-- **No request changes the metrics.** -/
theorem keepsMetrics_serve (request : Request) : Action.KeepsMetrics (app.serve env request) := by
  intro j
  cases hd : app.dispatch? env request with
  | none => rw [App.serve_run_none hd]
  | some d =>
    obtain ⟨hbare, ⟨route, hroute, he⟩ | he⟩ := bare_of_dispatch? env hd
    · rw [App.serve_run_bare hd hbare, he]
      exact keepsMetrics_handler env hroute d.incoming j
    · rw [App.serve_run_bare hd hbare, he]
      rfl

end Inspection

end ProbeGateway
