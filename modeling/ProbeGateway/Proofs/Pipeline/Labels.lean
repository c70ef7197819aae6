import ProbeGateway.Proofs.Http.Template
import ProbeGateway.Proofs.Metrics.Labels
import ProbeGateway.Proofs.Pipeline.Conservation

/-!
# Paths in the metrics over whole runs

However many requests there are and whatever their paths, the metrics tell them apart by the
templates of the main routes.

1. A request that the layers see has come to such a template (`template_of_dispatch?`).
2. One request leaves only such paths (`pathsIn_serve`), and so does any run (`pathsIn_after`).
-/

namespace ProbeGateway

variable {paths : List String} {j : Journal}

/-- Up to its recording a request adds no path. -/
theorem Dispatch.pathsIn_innermost {d : Dispatch} (settings : PipelineSettings) (env : Surroundings)
    (hk : ∀ incoming, Action.KeepsTraffic (d.handler incoming)) (h : j.metrics.PathsIn paths) :
    (d.innermost settings env j).2.metrics.PathsIn paths := by
  refine Metrics.PathsIn.congr ?_ (traffic_innermost settings hk)
  split
  · exact h.addPanic
  · exact h

namespace App

variable {app : App} {env : Surroundings} {request : Request} {d : Dispatch}

/-- A request that is dispatched within the main group has come to the template of a main route. -/
theorem template_of_dispatch? (hd : app.dispatch? env request = some d) (hg : d.group = .main) :
    ∃ route ∈ app.routes, route.group = .main ∧ route.template = d.incoming.template := by
  unfold dispatch? at hd
  obtain ⟨⟨template, parts⟩, hfound, rfl⟩ := Option.map_eq_some_iff.mp hd
  rw [dispatchAt_group] at hg
  rw [dispatchAt_incoming]
  unfold groupFor at hg
  split at hg
  · next route hroute =>
    obtain ⟨hmem, htemplate⟩ := List.mem_filter.mp (mem_of_methodRoute?_or hroute)
    exact ⟨route, hmem, hg, of_decide_eq_true htemplate⟩
  · -- A method is refused within the layers only if no route of the template is bare.
    obtain ⟨hmem, -⟩ := Template.fits_of_choose hfound
    obtain ⟨route, hroute, htemplate⟩ := List.mem_map.mp hmem
    refine ⟨route, hroute, ?_, htemplate⟩
    have hat : route ∈ app.routesAt template :=
      List.mem_filter.mpr ⟨hroute, decide_eq_true htemplate⟩
    unfold refusalGroup at hg
    split at hg
    · exact absurd hg (by decide)
    · next hbare =>
      cases hgroup : route.group with
      | main => rfl
      | bare => exact absurd (List.any_eq_true.mpr ⟨route, hat, decide_eq_true hgroup⟩) hbare

variable (env request) in
/-- One request leaves no path but those of the main routes. -/
theorem pathsIn_serve (hk : app.KeepsTraffic)
    (hpaths : ∀ route ∈ app.routes, route.group = .main → route.template ∈ paths)
    (h : j.metrics.PathsIn paths) :
    ((app.serve env request).run j).2.metrics.PathsIn paths := by
  cases hd : app.dispatch? env request with
  | none =>
    rw [serve_run_none hd]
    exact h
  | some d =>
    cases hg : d.group with
    | main =>
      obtain ⟨route, hroute, hmain, htemplate⟩ := template_of_dispatch? hd hg
      have hpath : d.incoming.template ∈ paths := htemplate ▸ hpaths route hroute hmain
      rw [serve_run_main hd hg]
      exact (d.pathsIn_innermost app.settings env (hk.dispatch hd) h).complete hpath
    | bare =>
      rw [serve_run_bare hd hg]
      exact h.congr (hk.dispatch hd _ _)

/-- **Any run leaves no path but those of the main routes.** -/
theorem pathsIn_after (hk : app.KeepsTraffic)
    (hpaths : ∀ route ∈ app.routes, route.group = .main → route.template ∈ paths)
    (requests : List (Surroundings × Request)) (h : j.metrics.PathsIn paths) :
    (app.after requests j).metrics.PathsIn paths := by
  induction requests generalizing j with
  | nil => exact h
  | cons first rest ih =>
    obtain ⟨env, request⟩ := first
    exact ih (pathsIn_serve env request hk hpaths h)

end App

end ProbeGateway
