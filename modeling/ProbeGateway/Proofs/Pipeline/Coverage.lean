import ProbeGateway.Proofs.Pipeline.Envelope
import ProbeGateway.Proofs.Pipeline.Traffic

/-!
# What passing all layers leaves behind

A request of the main group is seen by every layer, and each leaves its mark (`SeenByLayers`).

1. Every innermost response allows the configured origin, and nothing further out takes that back
   (`values_allowOrigin_serve_main`); the trace id is added last (`has_traceHeader_serve_main`).
2. A handler only adds to the log between the opening of a request and its end
   (`events_serve_main`).
3. The request is counted once (`requests_serve_main`).
-/

namespace ProbeGateway

/-! ## Headers -/

namespace Headers

theorem has_setDefault (name value : String) (h : Headers) :
    (h.setDefault name value).has name = true := by
  unfold setDefault
  split
  · assumption
  · simp [append, has]

end Headers

namespace Layer

variable (settings : PipelineSettings) (env : Surroundings)

theorem values_allowOrigin_preflight :
    (preflight settings).headers.values allowOriginHeader = [settings.corsOrigin] := by
  unfold preflight
  rw [Headers.values_cons_self, Headers.values_cons_of_ne (by decide +kernel),
    Headers.values_cons_of_ne (by decide +kernel), Headers.values_cons_of_ne (by decide +kernel),
    Headers.values_nil]

/-- Settling a response may change what is said of its body, and keeps all other headers. -/
theorem values_settled {name : String} (ht : name ≠ contentType) (hl : name ≠ contentLength)
    (r : Response) : (settled r).headers.values name = r.headers.values name := by
  have hreplace (e : Failure) : (replace r e).headers.values name = r.headers.values name := by
    rw [values_replace, if_neg ht, if_neg hl]
  unfold settled normalised
  split
  · split
    · exact hreplace _
    · split
      · rfl
      · exact hreplace _
  · rfl

end Layer

/-! ## The innermost response -/

namespace Dispatch

variable {d : Dispatch} {settings : PipelineSettings} {env : Surroundings} {j : Journal}

/-- However the innermost response came about, it allows the configured origin. -/
theorem values_allowOrigin_innermost :
    (d.innermost settings env j).1.headers.values allowOriginHeader = [settings.corsOrigin] := by
  by_cases hm : d.incoming.request.method = .options
  · rw [innermost_options settings env hm]
    exact Layer.values_allowOrigin_preflight settings
  · cases ho : (d.outcome env j).1 with
    | answered r =>
      rw [innermost_answered settings env hm ho]
      exact Headers.values_set_self _ _ _
    | panicked payload =>
      rw [innermost_panicked settings env hm ho]
      exact Headers.values_set_self _ _ _

variable (d env j) in
/-- What the handler logs of a request that reaches it. -/
def logged : List Event :=
  if d.incoming.request.method = .options then []
  else (d.outcome env j).2.events.drop (Layer.opened env d.incoming j).events.length

/-- Up to its recording a request logs its opening, and what its handler logs. -/
theorem events_innermost (h : ∀ incoming, Action.AddsEvents (d.handler incoming)) :
    (d.innermost settings env j).2.events =
      j.events ++ Layer.opening env d.incoming ++ d.logged env j := by
  by_cases hm : d.incoming.request.method = .options
  · rw [innermost_options settings env hm, logged, if_pos hm]
    exact (List.append_nil _).symm
  · obtain ⟨more, hmore⟩ := h (Layer.traced env d.incoming) (Layer.opened env d.incoming j)
    have hevents : (d.outcome env j).2.events =
        (Layer.opened env d.incoming j).events ++ more := hmore
    have hlogged : d.logged env j = more := by
      rw [logged, if_neg hm, hevents, List.drop_left]
    rw [hlogged]
    cases ho : (d.outcome env j).1 with
    | answered r =>
      rw [innermost_answered settings env hm ho]
      exact hevents
    | panicked payload =>
      rw [innermost_panicked settings env hm ho]
      exact hevents

/-- Up to its recording a request is not counted. -/
theorem requests_innermost (h : ∀ incoming, Action.KeepsTraffic (d.handler incoming)) :
    (d.innermost settings env j).2.metrics.requests = j.metrics.requests := by
  have htraffic : (d.innermost settings env j).2.metrics.traffic = _ := traffic_innermost settings h
  refine (congrArg Metrics.requests htraffic).trans ?_
  split
  · rfl
  · rfl

end Dispatch

/-! ## The answer -/

namespace App

variable {app : App} {env : Surroundings} {request : Request} {d : Dispatch}

theorem values_allowOrigin_serve_main (h : app.dispatch? env request = some d)
    (hd : d.group = .main) (j : Journal) :
    ((app.serve env request).run j).1.headers.values allowOriginHeader =
      [app.settings.corsOrigin] := by
  rw [values_serve_main h hd (by decide +kernel) (by decide +kernel) (by decide +kernel),
    Layer.values_settled (by decide +kernel) (by decide +kernel)]
  exact Dispatch.values_allowOrigin_innermost

theorem has_traceHeader_serve_main (h : app.dispatch? env request = some d)
    (hd : d.group = .main) (j : Journal) :
    ((app.serve env request).run j).1.headers.has traceHeader = true := by
  rw [Headers.has_iff_values_ne_nil, serve_run_main h hd,
    Manner.finish_values _ _ _ (by decide +kernel) (by decide +kernel),
    ← Headers.has_iff_values_ne_nil]
  exact Headers.has_setDefault _ _ _

/-- Between the opening of a request and its end there is what its handler logs, and what is logged
of its failure. -/
theorem events_serve_main (h : app.dispatch? env request = some d) (hd : d.group = .main)
    (ha : ∀ incoming, Action.AddsEvents (d.handler incoming)) (j : Journal) :
    ((app.serve env request).run j).2.events =
      j.events ++ Layer.opening env d.incoming ++
        (d.logged env j ++ Layer.complaint (d.innermost app.settings env j).1) ++
        [.requestCompleted request.method.name request.path
          ((app.serve env request).run j).1.status] := by
  rw [events_serve_innermost h hd, Dispatch.events_innermost ha,
    List.append_assoc (_ ++ _) (d.logged env j)]

theorem requests_serve_main (h : app.dispatch? env request = some d) (hd : d.group = .main)
    (hk : ∀ incoming, Action.KeepsTraffic (d.handler incoming)) (j : Journal) :
    ((app.serve env request).run j).2.metrics.requests = j.metrics.requests + 1 := by
  rw [serve_run_main h hd]
  show (Recording.complete _ _).requests = _
  rw [Recording.complete_record, Dispatch.requests_innermost hk]

/-- The marks of all layers: the answer to a request has a trace id and allows the configured
origin, the request was counted once, the log has its start and its end, and if it failed, its body
is the envelope of a kind that may be seen. -/
structure SeenByLayers (settings : PipelineSettings) (request : Request) (j : Journal)
    (served : Response × Journal) : Prop where
  traced : served.1.headers.has traceHeader = true
  allowed : served.1.headers.values allowOriginHeader = [settings.corsOrigin]
  counted : served.2.metrics.requests = j.metrics.requests + 1
  told : ∃ span between, served.2.events =
    j.events ++ span :: .requestStarted request.method.name request.path
        (request.remote.getD "-") :: between ++
      [.requestCompleted request.method.name request.path served.1.status]
  envelope : request.method ≠ .head → Http.isFailure served.1.status = true →
    ∃ kind message, kind ≠ .internalOnly ∧ served.1.Tells kind message

/-- A request of the main group is seen by all layers. -/
theorem seenByLayers_serve_main (h : app.dispatch? env request = some d) (hd : d.group = .main)
    (ho : ∀ incoming, Action.Ordinary (d.handler incoming)) {j : Journal}
    (hp : (d.outcome env j).1.Plain) :
    SeenByLayers app.settings request j ((app.serve env request).run j) where
  traced := has_traceHeader_serve_main h hd j
  allowed := values_allowOrigin_serve_main h hd j
  counted := requests_serve_main h hd (fun incoming => (ho incoming).keepsTraffic) j
  told := by
    refine ⟨.requestSpan request.method.name d.incoming.template
      (Layer.shownTraceId (Layer.traceIdOf env request)),
      d.logged env j ++ Layer.complaint (d.innermost app.settings env j).1, ?_⟩
    rw [events_serve_main h hd (fun incoming => (ho incoming).addsEvents) j, Layer.opening,
      dispatch?_request h]
    simp
  envelope := by
    intro hm hf
    have hfaith := d.faithful_innermost app.settings hp
    have hinner : Http.isFailure (d.innermost app.settings env j).1.status = true := by
      rw [← Layer.isFailure_settled hfaith, ← status_serve_main h hd]
      exact hf
    exact ⟨_, _, Layer.reported_kind_ne _,
      tells_serve_main h hd hm (Layer.tells_settled hfaith hinner)⟩

end App

end ProbeGateway
