import ProbeGateway.Pipeline.App

/-!
# The passage of a request through the layers

`wrapped_run`: what all layers around a handler do, in one equation over the innermost response.

1. The request gets its trace id (`traced`), and its opening is logged.
2. The two innermost layers give the innermost response (`guarded`): the answer to a preflight
   question, the marked answer of the handler, or the answer in place of a handler that broke off.
3. That response is recorded as it is, and is then brought into its final form (`settled`).
4. The failure that it reports and the end of the request are logged, and the trace id is sent back.
-/

namespace ProbeGateway

/-- Steps are run one after the other. -/
theorem Action.run_bind {α β : Type} (x : Action α) (f : α → Action β) (j : Journal) :
    (x >>= f).run j = (f (x.run j).1).run (x.run j).2 := rfl

namespace Layer

/-! ## The stations of a passage -/

/-- A request with its trace id, as all layers but the outermost get it. -/
def traced (env : Surroundings) (incoming : Incoming) : Incoming :=
  { incoming with
    request := { incoming.request with
      headers := incoming.request.headers.setDefault traceHeader
        (traceIdOf env incoming.request) }
    traceId := some (shownTraceId (traceIdOf env incoming.request)) }

/-- A journal after the opening of a request. -/
def opened (env : Surroundings) (incoming : Incoming) (j : Journal) : Journal :=
  { j with events := j.events ++ opening env incoming }

/-- A handler within the layers that are measured. -/
def guarded (settings : PipelineSettings) (env : Surroundings) (handler : Handler) : Service :=
  recover settings env (allowOrigin settings handler)

/-- A response in its final form, apart from the trace id. -/
def settled (r : Response) : Response := if Http.isFailure r.status then normalised r else r

/-- What is logged about a failed response. -/
def complaint (r : Response) : List Event :=
  if Http.isFailure r.status then [.requestFailed (failureOf r)] else []

theorem eq_of_mem_complaint {event : Event} {r : Response} (h : event ∈ complaint r) :
    event = .requestFailed (failureOf r) := by
  unfold complaint at h
  split at h
  · exact List.mem_singleton.mp h
  · exact absurd h List.not_mem_nil

/-- A response with the trace id of its request. -/
def stamped (env : Surroundings) (request : Request) (r : Response) : Response :=
  { r with headers := r.headers.setDefault traceHeader (traceIdOf env request) }

/-- A journal after an innermost response was recorded and its request brought to an end. -/
def closed (env : Surroundings) (incoming : Incoming) (r : Response) (j : Journal) : Journal where
  metrics := (measured env incoming r).complete j.metrics
  events := j.events ++ complaint r ++
    [.requestCompleted incoming.request.method.name incoming.request.path (settled r).status]
  calls := j.calls

variable (settings : PipelineSettings) (env : Surroundings) (handler : Handler)
  (incoming : Incoming) {j : Journal}

/-! ## The innermost response -/

/-- A preflight question never reaches the handler. -/
theorem guarded_run_options (h : incoming.request.method = .options) :
    (guarded settings env handler incoming).run j = (preflight settings, j) := by
  unfold guarded recover allowOrigin
  rw [if_pos h]
  rfl

/-- The answer of a handler is marked as allowed. -/
theorem guarded_run_answered (h : incoming.request.method ≠ .options) {r : Response} {j' : Journal}
    (hr : (handler incoming).run j = (.answered r, j')) :
    (guarded settings env handler incoming).run j = (allow settings r, j') := by
  unfold guarded recover allowOrigin
  rw [if_neg h, Action.run_bind, Action.run_bind, hr]
  rfl

/-- A handler that breaks off is counted, and answered for. -/
theorem guarded_run_panicked (h : incoming.request.method ≠ .options) {payload : PanicPayload}
    {j' : Journal} (hr : (handler incoming).run j = (.panicked payload, j')) :
    (guarded settings env handler incoming).run j =
      (panicResponse settings env payload, { j' with metrics := j'.metrics.addPanic }) := by
  unfold guarded recover allowOrigin
  rw [if_neg h, Action.run_bind, Action.run_bind, hr]
  rfl

/-- Nothing matters of a handler but what it does with the request. -/
theorem guarded_congr {handler' : Handler} (h : handler incoming = handler' incoming) :
    guarded settings env handler incoming = guarded settings env handler' incoming := by
  unfold guarded recover allowOrigin
  rw [h]

/-! ## Layer by layer -/

theorem measure_run (inner : Service) :
    (measure env inner incoming).run j =
      (((inner incoming).run j).1,
        { ((inner incoming).run j).2 with
          metrics := (measured env incoming ((inner incoming).run j).1).complete
            ((inner incoming).run j).2.metrics }) := rfl

theorem normalise_run (inner : Service) :
    (normalise inner incoming).run j =
      (settled ((inner incoming).run j).1,
        { ((inner incoming).run j).2 with
          events :=
            ((inner incoming).run j).2.events ++ complaint ((inner incoming).run j).1 }) := by
  unfold normalise settled complaint
  rw [Action.run_bind]
  by_cases h : Http.isFailure ((inner incoming).run j).1.status
  · rw [if_pos h, if_pos h, if_pos h]
    rfl
  · rw [if_neg h, if_neg h, if_neg h, List.append_nil]
    rfl

theorem narrate_run (inner : Service) :
    let started : Journal := { j with events := j.events ++
      [.requestStarted incoming.request.method.name incoming.request.path
        (incoming.request.remote.getD "-")] }
    (narrate inner incoming).run j =
      (((inner incoming).run started).1,
        { ((inner incoming).run started).2 with
          events := ((inner incoming).run started).2.events ++
            [.requestCompleted incoming.request.method.name incoming.request.path
              ((inner incoming).run started).1.status] }) := rfl

theorem trace_run (inner : Service) :
    let spanned : Journal := { j with events := j.events ++
      [.requestSpan incoming.request.method.name incoming.template
        (shownTraceId (traceIdOf env incoming.request))] }
    (trace env inner incoming).run j =
      (stamped env incoming.request ((inner (traced env incoming)).run spanned).1,
        ((inner (traced env incoming)).run spanned).2) := rfl

/-! ## All layers -/

/-- What a request leaves behind that passes all layers around a handler. -/
theorem wrapped_run :
    let innermost := (guarded settings env handler (traced env incoming)).run
      (opened env incoming j)
    (handler.wrapped settings env incoming).run j =
      (stamped env incoming.request (settled innermost.1),
        closed env incoming innermost.1 innermost.2) := by
  intro innermost
  unfold Handler.wrapped
  rw [trace_run, narrate_run, normalise_run, measure_run]
  have hopen : opened env incoming j =
      { j with events := (j.events ++ [.requestSpan incoming.request.method.name incoming.template
          (shownTraceId (traceIdOf env incoming.request))]) ++
        [.requestStarted incoming.request.method.name incoming.request.path
          (incoming.request.remote.getD "-")] } := by
    unfold opened opening
    rw [List.append_assoc]
    rfl
  unfold closed
  rw [show innermost = (guarded settings env handler (traced env incoming)).run
    (opened env incoming j) from rfl, hopen]
  rfl

/-- A handler meets a request of the layers only once it has its trace id. -/
theorem wrapped_congr {handler' : Handler}
    (h : handler (traced env incoming) = handler' (traced env incoming)) :
    handler.wrapped settings env incoming = handler'.wrapped settings env incoming := by
  funext j
  have hrun : (handler.wrapped settings env incoming).run j =
      (handler'.wrapped settings env incoming).run j := by
    rw [wrapped_run, wrapped_run, guarded_congr settings env handler _ h]
  exact hrun

end Layer

end ProbeGateway
