import ProbeGateway.Http.Template
import ProbeGateway.Pipeline.Layers

/-!
# Applications

An application is a list of routes. Main routes are answered within the layers, bare routes are not.
The path alone decides which template a request goes to, and its method which of the template's
routes. A path that fits no template is answered without passing any layer.
-/

namespace ProbeGateway

/-- Which layers a route has around it. -/
inductive RouteGroup
  | main
  | bare
deriving DecidableEq, Repr

/-- A template with a method, or with any, and what answers its requests. -/
structure Route where
  group : RouteGroup
  template : String
  /-- The method it answers; none stands for any. -/
  method : Option Method
  handler : Surroundings → Handler

/-- Routes, and the settings of their layers. -/
structure App where
  settings : PipelineSettings
  routes : List Route

namespace App

/-! ## Choosing a route -/

/-- The routes of one template. -/
def routesAt (app : App) (template : String) : List Route :=
  app.routes.filter fun r => r.template = template

/-- The route that answers a method by name; the route for fetching also answers for headers. -/
def methodRoute? (method : Method) (routes : List Route) : Option Route :=
  (routes.find? fun r => r.method = some method).or <|
    if method = .head then routes.find? fun r => r.method = some .get else none

/-- The route that answers any method. -/
def anyRoute? (routes : List Route) : Option Route := routes.find? fun r => r.method = none

/-- The methods that a route answers, as a client is told. -/
def allowText (m : Method) : String := if m = .get then "GET,HEAD" else m.name

/-- The methods that some routes answer, as a client is told. -/
def allowedAt (routes : List Route) : String :=
  String.intercalate "," ((routes.filterMap (·.method)).map allowText)

/-- The group whose layers a method is refused in. -/
def refusalGroup (routes : List Route) : RouteGroup :=
  if routes.any fun r => r.group = .bare then .bare else .main

/-! ## Finishing a response -/

/-- Adds the length of the body unless a length is given. -/
def withLength (r : Response) : Response :=
  { r with headers := r.headers.setDefault contentLength (decimal r.body.length) }

/-- A response without its body. -/
def withoutBody (r : Response) : Response := { r with body := [] }

/-- Tells which methods are allowed unless the response tells. -/
def withAllow (methods : String) (r : Response) : Response :=
  { r with headers := r.headers.setDefault "allow" methods }

/-- The answer to a method that no route of a template has. -/
def notAllowed : Handler := fun _ => pure (.answered (.empty 405))

/-- The answer to a path that fits no template. -/
def notFound : Response := withLength (.empty 404)

/-! ## Answering -/

/-- What a handler gives outside the layers. A handler that breaks off there has no response; the
connection ends, which is told by a status that no response has. -/
def bareResponse : Outcome → Response
  | .answered r => r
  | .panicked _ => .empty 0

/-- A handler with the layers of its group. -/
def within (app : App) (group : RouteGroup) (env : Surroundings) (handler : Handler) : Service :=
  match group with
  | .main => handler.wrapped app.settings env
  | .bare => fun incoming => return bareResponse (← handler incoming)

/-- Answers a request to a template. -/
def serveAt (app : App) (env : Surroundings) (incoming : Incoming) : Action Response :=
  let routes := app.routesAt incoming.template
  match methodRoute? incoming.request.method routes with
  | some route => do
    let r ← app.within route.group env (route.handler env) incoming
    let r := withLength r
    return if incoming.request.method = .head then withoutBody r else r
  | none =>
    match anyRoute? routes with
    | some route => do
      let r ← app.within route.group env (route.handler env) incoming
      return withLength r
    | none => do
      let r ← app.within (refusalGroup routes) env notAllowed incoming
      return withLength (withAllow (allowedAt routes) r)

/-- Answers a request. -/
def serve (app : App) (env : Surroundings) (request : Request) : Action Response :=
  match Template.choose request.path.toList (app.routes.map (·.template)) with
  | none => pure notFound
  | some (template, parts) => app.serveAt env ⟨request, template, parts, none⟩

/-! ## Requests in flight -/

/-- The group whose layers a method meets. -/
def groupFor (method : Method) (routes : List Route) : RouteGroup :=
  match (methodRoute? method routes).or (anyRoute? routes) with
  | some route => route.group
  | none => refusalGroup routes

/-- What a request has logged while its handler is still at work. -/
def opening (app : App) (env : Surroundings) (request : Request) : List Event :=
  match Template.choose request.path.toList (app.routes.map (·.template)) with
  | none => []
  | some (template, parts) =>
    if groupFor request.method (app.routesAt template) = .main then
      Layer.opening env ⟨request, template, parts, none⟩
    else []

/-- Answers a request whose opening is logged already. -/
def resume (app : App) (env : Surroundings) (request : Request) : Action Response := fun j =>
  let (r, done) := (app.serve env request).run { j with events := [] }
  (r, { done with events := j.events ++ done.events.drop (app.opening env request).length })

end App

end ProbeGateway
