import ProbeGateway.Proofs.Pipeline.Passage

/-!
# What answers a request

`App.dispatch?` tells which handler answers a request, within the layers of which group, and in what
manner the request came to it; `App.serve` runs that handler within its layers and finishes the
response (`serve_run_some`). For a request of the main group the whole answer is the passage of its
innermost response (`serve_run_main`).
-/

namespace ProbeGateway

/-- How a request came to the handler that answers it. -/
inductive Manner
  | byMethod
  | byAny
  /-- Its method is none of those that its template has. -/
  | refused (allowed : String)
deriving DecidableEq, Repr

/-- A request with what answers it. -/
structure Dispatch where
  group : RouteGroup
  handler : Handler
  manner : Manner
  incoming : Incoming

/-! ## Finishing a response -/

namespace Manner

open App

/-- What the framework does to a response at last. -/
def finish (method : Method) : Manner → Response → Response
  | byMethod, r => if method = .head then withoutBody (withLength r) else withLength r
  | byAny, r => withLength r
  | refused allowed, r => withLength (withAllow allowed r)

variable (manner : Manner) (method : Method) (r : Response)

@[simp] theorem finish_status : (manner.finish method r).status = r.status := by
  cases manner with
  | byMethod =>
    rw [finish]
    split <;> rfl
  | byAny => rfl
  | refused allowed => rfl

theorem finish_body_or :
    (manner.finish method r).body = r.body ∨
      method = .head ∧ (manner.finish method r).body = [] := by
  cases manner with
  | byMethod =>
    rw [finish]
    split
    · next h => exact .inr ⟨h, rfl⟩
    · exact .inl rfl
  | byAny => exact .inl rfl
  | refused allowed => exact .inl rfl

/-- Only an answer to a question for headers loses its body. -/
theorem finish_body {method : Method} (h : method ≠ .head) :
    (manner.finish method r).body = r.body :=
  (finish_body_or manner method r).resolve_right fun hh => h hh.1

/-- Only the length and the allowed methods are told in addition. -/
theorem finish_values {name : String} (hl : name ≠ contentLength) (ha : name ≠ "allow") :
    (manner.finish method r).headers.values name = r.headers.values name := by
  have hlen (r : Response) : (withLength r).headers.values name = r.headers.values name :=
    Headers.values_setDefault_of_ne _ _ hl
  cases manner with
  | byMethod =>
    rw [finish]
    split
    · exact hlen r
    · exact hlen r
  | byAny => exact hlen r
  | refused allowed =>
    exact (hlen _).trans (Headers.values_setDefault_of_ne _ _ ha)

end Manner

/-! ## Choosing what answers -/

namespace App

variable (app : App) (env : Surroundings)

/-- What answers a request to a template. -/
def dispatchAt (incoming : Incoming) : Dispatch :=
  match methodRoute? incoming.request.method (app.routesAt incoming.template) with
  | some route => ⟨route.group, route.handler env, .byMethod, incoming⟩
  | none =>
    match anyRoute? (app.routesAt incoming.template) with
    | some route => ⟨route.group, route.handler env, .byAny, incoming⟩
    | none =>
      ⟨refusalGroup (app.routesAt incoming.template), notAllowed,
        .refused (allowedAt (app.routesAt incoming.template)), incoming⟩

/-- What answers a request, unless its path fits no template. -/
def dispatch? (request : Request) : Option Dispatch :=
  (Template.choose request.path.toList (app.routes.map (·.template))).map fun found =>
    app.dispatchAt env ⟨request, found.1, found.2, none⟩

variable {app env} {request : Request} {d : Dispatch}

theorem dispatchAt_incoming (incoming : Incoming) :
    (app.dispatchAt env incoming).incoming = incoming := by
  unfold dispatchAt
  split
  · rfl
  · split <;> rfl

/-- The group is that of the route, or the one in which the method is refused. -/
theorem dispatchAt_group (incoming : Incoming) :
    (app.dispatchAt env incoming).group =
      groupFor incoming.request.method (app.routesAt incoming.template) := by
  unfold dispatchAt groupFor
  cases methodRoute? incoming.request.method (app.routesAt incoming.template) with
  | some route => rfl
  | none =>
    cases anyRoute? (app.routesAt incoming.template) with
    | some route => rfl
    | none => rfl

/-- What answers a request is handed that request. -/
theorem dispatch?_request (h : app.dispatch? env request = some d) :
    d.incoming.request = request := by
  unfold dispatch? at h
  obtain ⟨found, -, rfl⟩ := Option.map_eq_some_iff.mp h
  rw [dispatchAt_incoming]

theorem dispatch?_of_choose {found : String × List String}
    (h : Template.choose request.path.toList (app.routes.map (·.template)) = some found) :
    app.dispatch? env request = some (app.dispatchAt env ⟨request, found.1, found.2, none⟩) := by
  unfold dispatch?
  rw [h]
  rfl

theorem serveAt_run (incoming : Incoming) (j : Journal) :
    let d := app.dispatchAt env incoming
    let inside := (app.within d.group env d.handler incoming).run j
    (app.serveAt env incoming).run j =
      (d.manner.finish incoming.request.method inside.1, inside.2) := by
  unfold serveAt dispatchAt
  dsimp only
  cases methodRoute? incoming.request.method (app.routesAt incoming.template) with
  | some route => rfl
  | none =>
    cases anyRoute? (app.routesAt incoming.template) with
    | some route => rfl
    | none => rfl

/-! ## Answering -/

/-- A path that fits no template leaves nothing behind. -/
theorem serve_run_none (h : app.dispatch? env request = none) (j : Journal) :
    (app.serve env request).run j = (notFound, j) := by
  unfold dispatch? at h
  unfold serve
  rw [Option.map_eq_none_iff.mp h]
  rfl

/-- A request is answered by what it was dispatched to, within the layers of its group. -/
theorem serve_run_some (h : app.dispatch? env request = some d) (j : Journal) :
    (app.serve env request).run j =
      (d.manner.finish request.method ((app.within d.group env d.handler d.incoming).run j).1,
        ((app.within d.group env d.handler d.incoming).run j).2) := by
  unfold dispatch? at h
  obtain ⟨⟨template, parts⟩, hfound, rfl⟩ := Option.map_eq_some_iff.mp h
  unfold serve
  rw [hfound, dispatchAt_incoming]
  exact serveAt_run ⟨request, template, parts, none⟩ j

/-- A request of the bare group is answered by its handler alone. -/
theorem serve_run_bare (h : app.dispatch? env request = some d) (hd : d.group = .bare)
    (j : Journal) :
    (app.serve env request).run j =
      (d.manner.finish request.method (bareResponse ((d.handler d.incoming).run j).1),
        ((d.handler d.incoming).run j).2) := by
  rw [serve_run_some h]
  unfold within
  rw [hd]
  rfl

end App

/-! ## Templates with one route -/

/-- Whether a method fetches what stands at a path, or its headers. -/
def Method.fetches (method : Method) : Bool := method = .get || method = .head

namespace App

variable {app : App} {env : Surroundings} {incoming : Incoming} {route : Route}

theorem methodRoute?_single (h : route.method = some .get) (method : Method) :
    methodRoute? method [route] = if method.fetches then some route else none := by
  unfold methodRoute? Method.fetches
  by_cases hget : method = .get
  · subst hget
    simp [h]
  · have hne : ¬ (Method.get = method) := fun e => hget e.symm
    by_cases hhead : method = .head
    · subst hhead
      simp [h, Method.get, Method.head]
    · simp [h, hget, hhead, hne]

/-- The only route of a template answers requests that fetch. -/
theorem dispatchAt_fetches (hroutes : app.routesAt incoming.template = [route])
    (hroute : route.method = some .get) (hm : incoming.request.method.fetches = true) :
    app.dispatchAt env incoming = ⟨route.group, route.handler env, .byMethod, incoming⟩ := by
  unfold dispatchAt
  rw [hroutes, methodRoute?_single hroute, hm]
  rfl

/-- Other requests are refused, within the layers of the route. -/
theorem dispatchAt_refuses (hroutes : app.routesAt incoming.template = [route])
    (hroute : route.method = some .get) (hm : incoming.request.method.fetches = false) :
    app.dispatchAt env incoming = ⟨route.group, notAllowed, .refused "GET,HEAD", incoming⟩ := by
  have hany : anyRoute? [route] = none := by simp [anyRoute?, hroute]
  have hallowed : allowedAt [route] = "GET,HEAD" := by
    simp only [allowedAt, List.filterMap_cons, hroute, List.filterMap_nil]
    decide +kernel
  have hgroup : refusalGroup [route] = route.group := by
    unfold refusalGroup
    cases hg : route.group with
    | main => simp [hg]
    | bare => simp [hg]
  unfold dispatchAt
  rw [hroutes, methodRoute?_single hroute, hm, hany, hallowed, hgroup]
  rfl

end App

/-! ## Requests of the main group -/

namespace Dispatch

variable (d : Dispatch) (settings : PipelineSettings) (env : Surroundings) (j : Journal)

/-- What the handler does with a request that reaches it through the layers. -/
def outcome : Outcome × Journal :=
  (d.handler (Layer.traced env d.incoming)).run (Layer.opened env d.incoming j)

/-- The innermost response to a request, with the journal at that time. -/
def innermost : Response × Journal :=
  (Layer.guarded settings env d.handler (Layer.traced env d.incoming)).run
    (Layer.opened env d.incoming j)

variable {d j}

theorem innermost_options (h : d.incoming.request.method = .options) :
    d.innermost settings env j = (Layer.preflight settings, Layer.opened env d.incoming j) :=
  Layer.guarded_run_options settings env d.handler (Layer.traced env d.incoming) h

theorem innermost_answered (h : d.incoming.request.method ≠ .options) {r : Response}
    (hr : (d.outcome env j).1 = .answered r) :
    d.innermost settings env j = (Layer.allow settings r, (d.outcome env j).2) :=
  Layer.guarded_run_answered settings env d.handler (Layer.traced env d.incoming) h
    (Prod.ext hr rfl)

theorem innermost_panicked (h : d.incoming.request.method ≠ .options) {payload : PanicPayload}
    (hr : (d.outcome env j).1 = .panicked payload) :
    d.innermost settings env j =
      (Layer.panicResponse settings env payload,
        { (d.outcome env j).2 with metrics := (d.outcome env j).2.metrics.addPanic }) :=
  Layer.guarded_run_panicked settings env d.handler (Layer.traced env d.incoming) h
    (Prod.ext hr rfl)

end Dispatch

namespace App

variable {app : App} {env : Surroundings} {request : Request} {d : Dispatch}

/-- The answer to a request of the main group, and all it leaves behind. -/
theorem serve_run_main (h : app.dispatch? env request = some d) (hd : d.group = .main)
    (j : Journal) :
    (app.serve env request).run j =
      (d.manner.finish request.method (Layer.stamped env request
          (Layer.settled (d.innermost app.settings env j).1)),
        Layer.closed env d.incoming (d.innermost app.settings env j).1
          (d.innermost app.settings env j).2) := by
  have hwithin : (app.within d.group env d.handler d.incoming).run j =
      (Layer.stamped env d.incoming.request (Layer.settled (d.innermost app.settings env j).1),
        Layer.closed env d.incoming (d.innermost app.settings env j).1
          (d.innermost app.settings env j).2) := by
    unfold within
    rw [hd]
    exact Layer.wrapped_run app.settings env d.handler d.incoming
  rw [serve_run_some h, hwithin, dispatch?_request h]

/-- The status that a client of the main group sees is that of the settled response. -/
theorem status_serve_main (h : app.dispatch? env request = some d) (hd : d.group = .main)
    (j : Journal) :
    ((app.serve env request).run j).1.status =
      (Layer.settled (d.innermost app.settings env j).1).status := by
  rw [serve_run_main h hd, Manner.finish_status]
  rfl

/-- So is the body, unless only the headers were asked for. -/
theorem body_serve_main_or (h : app.dispatch? env request = some d) (hd : d.group = .main)
    (j : Journal) :
    ((app.serve env request).run j).1.body =
        (Layer.settled (d.innermost app.settings env j).1).body ∨
      request.method = .head ∧ ((app.serve env request).run j).1.body = [] := by
  rw [serve_run_main h hd]
  exact Manner.finish_body_or _ _ _

theorem body_serve_main (h : app.dispatch? env request = some d) (hd : d.group = .main)
    (hm : request.method ≠ .head) (j : Journal) :
    ((app.serve env request).run j).1.body =
      (Layer.settled (d.innermost app.settings env j).1).body :=
  (body_serve_main_or h hd j).resolve_right fun hh => hm hh.1

/-- So are the values of every header that the outer layers do not set. -/
theorem values_serve_main (h : app.dispatch? env request = some d) (hd : d.group = .main)
    {name : String} (hl : name ≠ contentLength) (ha : name ≠ "allow") (ht : name ≠ traceHeader)
    (j : Journal) :
    ((app.serve env request).run j).1.headers.values name =
      (Layer.settled (d.innermost app.settings env j).1).headers.values name := by
  rw [serve_run_main h hd, Manner.finish_values _ _ _ hl ha]
  exact Headers.values_setDefault_of_ne _ _ ht

/-- To what was logged up to the innermost response, its failure is added, and then the end of the
request. -/
theorem events_serve_innermost (h : app.dispatch? env request = some d) (hd : d.group = .main)
    (j : Journal) :
    ((app.serve env request).run j).2.events =
      (d.innermost app.settings env j).2.events ++
        Layer.complaint (d.innermost app.settings env j).1 ++
        [.requestCompleted request.method.name request.path
          ((app.serve env request).run j).1.status] := by
  rw [status_serve_main h hd, serve_run_main h hd, ← dispatch?_request h]
  rfl

end App

/-! ## A small application -/

/-- Surroundings in which no backend can be reached. -/
def Surroundings.quiet : Surroundings where
  rules := .failed false ⟨false, "refused"⟩
  metrics := .failed false ⟨false, "refused"⟩
  now := ⟨0, 0⟩
  freshTraceId := "7f0d1c52"
  backtrace := "0: main"
  elapsed := .zero false
  aliveTasks := 1
  profile := .ok []

/-- A request without headers. -/
def Request.to (method : Method) (path : String) : Request := ⟨method, path, none, [], none⟩

/-- A handler that always ends alike. -/
def Handler.ending (o : Outcome) : Handler := fun _ => pure o

/-- A response that fails without telling of a failure. -/
def Response.teapot : Response where
  status := 418
  headers := [(contentType, "text/plain"), ("set-cookie", "a=1"), (contentType, "text/html")]
  body := octets "short and stout"
  failure := none

/-- An application with a route for each way in which a handler ends. -/
def App.sample (detail : String) (payload : PanicPayload) : App where
  settings := ⟨"https://dash.example"⟩
  routes :=
    [⟨.main, "/ok", some .get, fun _ => .ending (.answered (.ofJson .null))⟩,
      ⟨.main, "/secret", some .get, fun _ =>
        .ending (.answered (Failure.response ⟨.internalOnly, detail, ""⟩))⟩,
      ⟨.main, "/boom", some .get, fun _ => .ending (.panicked payload)⟩,
      ⟨.main, "/tea", none, fun _ => .ending (.answered .teapot)⟩,
      ⟨.bare, "/bare", some .get, fun _ => .ending (.answered (.ofJson .null))⟩]

end ProbeGateway
