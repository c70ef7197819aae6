import ProbeGateway.Http.Message
import ProbeGateway.Journal
import ProbeGateway.Metrics.Recording

/-!
# The layers around a handler

A request to a main route passes six layers before its handler, and the response passes them on the
way back. From the outside in they trace the request, tell its story in the log, bring every failure
into one form, measure, recover from a handler that breaks off, and allow requests from another
origin. Each layer is a function of what lies inside it.
-/

namespace ProbeGateway

/-- What a handler that breaks off leaves behind. -/
inductive PanicPayload
  | message (text : String)
  /-- Something without words. -/
  | other
deriving DecidableEq, Repr

/-- How a handler ends. -/
inductive Outcome
  | answered (response : Response)
  | panicked (payload : PanicPayload)
deriving DecidableEq, Repr

/-- A request on its way to a handler. -/
structure Incoming where
  request : Request
  /-- The template of the route that the path was matched with. -/
  template : String
  /-- What the pieces of the template stand for. -/
  parts : List String
  /-- The trace id of the request, for routes that are traced. -/
  traceId : Option String
deriving DecidableEq, Repr

/-- What answers requests from within the layers. -/
abbrev Handler := Incoming → Action Outcome

/-- What answers requests and always has a response. -/
abbrev Service := Incoming → Action Response

/-- Settings that the layers share. -/
structure PipelineSettings where
  /-- The origin that requests from elsewhere may come from. -/
  corsOrigin : String

/-! ## Header names -/

/-- The header with the trace id. -/
def traceHeader : String := "x-trace-id"

/-- The header with the origin that is allowed. -/
def allowOriginHeader : String := "access-control-allow-origin"

/-- The header with the methods that are allowed. -/
def allowMethodsHeader : String := "access-control-allow-methods"

/-- The header with the header names that are allowed. -/
def allowHeadersHeader : String := "access-control-allow-headers"

/-- The header with what a response depends on. -/
def varyHeader : String := "vary"

namespace Layer

/-! ## Other origins -/

/-- The methods that requests from another origin may have. -/
def allowedMethods : String := "GET,POST,PUT,DELETE,OPTIONS"

/-- The headers that requests from another origin may have. -/
def allowedHeaders : String := "content-type,authorization"

/-- The headers of a request that a response depends on. -/
def varyOn : String := "origin, access-control-request-method, access-control-request-headers"

/-- The answer to a question what may be asked. -/
def preflight (settings : PipelineSettings) : Response where
  status := 200
  headers := [(allowOriginHeader, settings.corsOrigin), (varyHeader, varyOn),
    (allowMethodsHeader, allowedMethods), (allowHeadersHeader, allowedHeaders)]
  body := []
  failure := none

/-- Marks a response as allowed to the configured origin. -/
def allow (settings : PipelineSettings) (r : Response) : Response :=
  { r with headers :=
      (r.headers.append varyHeader varyOn).set allowOriginHeader settings.corsOrigin }

/-- Answers questions what may be asked, and allows all other responses to the origin. A handler
that breaks off passes unmarked. -/
def allowOrigin (settings : PipelineSettings) (inner : Handler) : Handler := fun incoming =>
  if incoming.request.method = .options then pure (.answered (preflight settings))
  else do
    match ← inner incoming with
    | .answered r => return .answered (allow settings r)
    | .panicked payload => return .panicked payload

/-! ## Recovery -/

/-- The words of what a handler left behind. -/
def panicText : PanicPayload → String
  | .message text => text
  | .other => "unknown panic payload"

/-- A handler that broke off, as a failure whose details are for the log. -/
def panicFailure (env : Surroundings) (payload : PanicPayload) : Failure where
  kind := .internalOnly
  message := "panic: " ++ panicText payload ++ "\n" ++ env.backtrace

/-- The response in place of the one that a handler did not give. -/
def panicResponse (settings : PipelineSettings) (env : Surroundings) (payload : PanicPayload) :
    Response :=
  let r := (panicFailure env payload).response
  { r with headers := r.headers.set allowOriginHeader settings.corsOrigin }

/-- Counts a handler that breaks off, and answers in its place. -/
def recover (settings : PipelineSettings) (env : Surroundings) (inner : Handler) : Service :=
  fun incoming => do
    match ← inner incoming with
    | .answered r => return r
    | .panicked payload =>
      Journal.count .addPanic
      return panicResponse settings env payload

/-! ## Measuring -/

/-- The name of the kind that a failed response is counted under. -/
def measuredKind (r : Response) : String :=
  match r.failure with
  | some e => e.kind.clientFacing.name
  | none => "Unknown"

/-- A response to a request as it is recorded. -/
def measured (env : Surroundings) (incoming : Incoming) (r : Response) : Recording where
  method := incoming.request.method.name
  path := incoming.template
  status := r.status
  kind := measuredKind r
  seconds := env.elapsed
  aliveTasks := env.aliveTasks

/-- Counts requests, their times and their failures, by method and template. -/
def measure (env : Surroundings) (inner : Service) : Service := fun incoming => do
  let r ← inner incoming
  Journal.count (measured env incoming r).complete
  return r

/-! ## Failures in one form -/

/-- A response that reports another failure in place of its own; its other headers stay. -/
def replace (r : Response) (e : Failure) : Response :=
  let fresh := e.response
  { fresh with
    headers := fresh.headers.merge ((r.headers.remove contentType).remove contentLength) }

/-- The failure that a response reports: the one it carries, or the one closest to its status. -/
def failureOf (r : Response) : Failure :=
  r.failure.getD ⟨.ofStatus r.status, (Http.reason? r.status).getD "request failed", ""⟩

/-- The failure that a client is told of in place of one whose details are for the log. -/
def hidden : Failure := .internal "internal server error"

/-- A failed response as the client gets it. -/
def normalised (r : Response) : Response :=
  if (failureOf r).kind = .internalOnly then replace r hidden
  else if r.failure.isSome then r
  else replace r (failureOf r)

/-- Logs every failure with its details, and lets the client see its code and message only. -/
def normalise (inner : Service) : Service := fun incoming => do
  let r ← inner incoming
  if Http.isFailure r.status then do
    Journal.log (.requestFailed (failureOf r))
    return normalised r
  else return r

/-! ## The story of a request -/

/-- Logs the start and the end of a request. -/
def narrate (inner : Service) : Service := fun incoming => do
  let method := incoming.request.method.name
  let path := incoming.request.path
  Journal.log (.requestStarted method path (incoming.request.remote.getD "-"))
  let r ← inner incoming
  Journal.log (.requestCompleted method path r.status)
  return r

/-! ## Tracing -/

/-- Whether a character may stand in a trace id that is shown. -/
def isVisible (c : Char) : Bool := (0x20 ≤ c.toNat && c.toNat < 0x7F) || c = '\t'

/-- A trace id as it is shown; one with other characters is not. -/
def shownTraceId (id : String) : String := if id.toList.all isVisible then id else ""

/-- The trace id of a request: its first, or a fresh one. -/
def traceIdOf (env : Surroundings) (request : Request) : String :=
  (request.headers.first? traceHeader).getD env.freshTraceId

/-- The log of a request before its handler: its span, and its start. -/
def opening (env : Surroundings) (incoming : Incoming) : List Event :=
  let request := incoming.request
  [.requestSpan request.method.name incoming.template (shownTraceId (traceIdOf env request)),
    .requestStarted request.method.name request.path (request.remote.getD "-")]

/-- Gives a request its trace id, opens its span, and sends the id back unless the response has one
of its own. -/
def trace (env : Surroundings) (inner : Service) : Service := fun incoming => do
  let id := traceIdOf env incoming.request
  let request := { incoming.request with
    headers := incoming.request.headers.setDefault traceHeader id }
  Journal.log (.requestSpan request.method.name incoming.template (shownTraceId id))
  let r ← inner { incoming with request := request, traceId := some (shownTraceId id) }
  return { r with headers := r.headers.setDefault traceHeader id }

end Layer

/-- All layers around a handler. -/
def Handler.wrapped (settings : PipelineSettings) (env : Surroundings) (handler : Handler) :
    Service :=
  Layer.trace env <| Layer.narrate <| Layer.normalise <| Layer.measure env <|
    Layer.recover settings env <| Layer.allowOrigin settings handler

end ProbeGateway
