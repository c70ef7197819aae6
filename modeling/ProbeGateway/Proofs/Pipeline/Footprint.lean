import ProbeGateway.Proofs.Pipeline.Dispatch

/-!
# Footprints

A step leaves a footprint (`Action.Leaves`) if its result, the calls it makes and the marks it leaves
in the metrics are the same whatever was done before.

1. Steps one after the other leave their footprints one after the other (`Leaves.bind`).
2. A request of the main group leaves the footprint of its handler, and after it the mark of its
   recording (`App.leaves_serve_answered`); a preflight question leaves that mark alone
   (`App.leaves_serve_preflight`).
3. A request of the bare group leaves the footprint of its handler only (`App.leaves_serve_bare`),
   and one that leads nowhere leaves none (`App.leaves_serve_none`).
-/

namespace ProbeGateway

/-! ## Marks -/

/-- One change that a request makes to the metrics. -/
inductive Mark
  | healthQuery (operation outcome : String)
  | backendCall (backend : Backend) (outcome : String) (seconds : Binary64)
  | response (recording : Recording)
deriving DecidableEq, Repr

namespace Mark

/-- The metrics after a change. -/
def apply (m : Metrics) : Mark → Metrics
  | healthQuery operation outcome => m.recordHealthQuery operation outcome
  | backendCall backend outcome seconds =>
    m.recordBackend backend.name backend.endpoint outcome seconds
  | response recording => recording.complete m

end Mark

/-! ## Steps -/

/-- Whatever was done before, a step has a result, makes some calls, and leaves some marks in the
metrics. -/
structure Action.Leaves {α : Type} (x : Action α) (a : α) (calls : List Call) (marks : List Mark) :
    Prop where
  result : ∀ j, (x.run j).1 = a
  calls : ∀ j, (x.run j).2.calls = j.calls ++ calls
  metrics : ∀ j, (x.run j).2.metrics = marks.foldl Mark.apply j.metrics

namespace Action.Leaves

variable {α β : Type} {x : Action α} {f : α → Action β} {a : α} {b : β} {calls calls' : List Call}
  {marks marks' : List Mark}

theorem pure (a : α) : Action.Leaves (Pure.pure a) a [] [] where
  result _ := rfl
  calls _ := (List.append_nil _).symm
  metrics _ := rfl

/-- The second step starts from what the first one left. -/
theorem bind (hx : Action.Leaves x a calls marks) (hf : Action.Leaves (f a) b calls' marks')
    {allCalls : List Call} {allMarks : List Mark} (hcalls : calls ++ calls' = allCalls)
    (hmarks : marks ++ marks' = allMarks) : Action.Leaves (x >>= f) b allCalls allMarks where
  result j := by rw [Action.run_bind, hx.result, hf.result]
  calls j := by rw [Action.run_bind, hx.result, hf.calls, hx.calls, List.append_assoc, hcalls]
  metrics j := by
    rw [Action.run_bind, hx.result, hf.metrics, hx.metrics, ← List.foldl_append, hmarks]

theorem map (hx : Action.Leaves x a calls marks) (g : α → β) :
    Action.Leaves (x >>= fun a => Pure.pure (g a)) (g a) calls marks :=
  hx.bind (pure (g a)) (List.append_nil _) (List.append_nil _)

theorem log (event : Event) : Action.Leaves (Journal.log event) () [] [] where
  result _ := rfl
  calls _ := (List.append_nil _).symm
  metrics _ := rfl

theorem noteCall (call : Call) : Action.Leaves (Journal.noteCall call) () [call] [] where
  result _ := rfl
  calls _ := rfl
  metrics _ := rfl

theorem count {change : Metrics → Metrics} {mark : Mark} (h : ∀ m, change m = mark.apply m) :
    Action.Leaves (Journal.count change) () [] [mark] where
  result _ := rfl
  calls _ := (List.append_nil _).symm
  metrics j := h j.metrics

end Action.Leaves

/-! ## Requests -/

namespace App

variable {app : App} {env : Surroundings} {request : Request} {d : Dispatch} {calls : List Call}
  {marks : List Mark}

theorem leaves_serve_none (h : app.dispatch? env request = none) :
    Action.Leaves (app.serve env request) notFound [] [] where
  result j := by rw [serve_run_none h]
  calls j := by rw [serve_run_none h, List.append_nil]
  metrics j := by rw [serve_run_none h, List.foldl_nil]

/-- A bare request leaves what its handler leaves. -/
theorem leaves_serve_bare (h : app.dispatch? env request = some d) (hd : d.group = .bare)
    {o : Outcome} (ho : Action.Leaves (d.handler d.incoming) o calls marks) :
    Action.Leaves (app.serve env request) (d.manner.finish request.method (bareResponse o)) calls
      marks where
  result j := by rw [serve_run_bare h hd, ho.result]
  calls j := by rw [serve_run_bare h hd, ho.calls]
  metrics j := by rw [serve_run_bare h hd, ho.metrics]

/-- A preflight question leaves the mark of its recording only. -/
theorem leaves_serve_preflight (h : app.dispatch? env request = some d) (hd : d.group = .main)
    (hm : request.method = .options) :
    let r := Layer.preflight app.settings
    Action.Leaves (app.serve env request)
      (d.manner.finish request.method (Layer.stamped env request (Layer.settled r))) []
      [.response (Layer.measured env d.incoming r)] := by
  intro r
  have hoptions : d.incoming.request.method = .options := by rw [dispatch?_request h, hm]
  constructor
  case result => exact fun j => by rw [serve_run_main h hd, Dispatch.innermost_options _ _ hoptions]
  case calls =>
    intro j
    rw [serve_run_main h hd, Dispatch.innermost_options _ _ hoptions, List.append_nil]
    rfl
  case metrics =>
    intro j
    rw [serve_run_main h hd, Dispatch.innermost_options _ _ hoptions]
    rfl

/-- Any other request that is answered leaves what its handler leaves, and then the mark of its
recording. -/
theorem leaves_serve_answered (h : app.dispatch? env request = some d) (hd : d.group = .main)
    (hm : request.method ≠ .options) {r : Response}
    (hr : Action.Leaves (d.handler (Layer.traced env d.incoming)) (.answered r) calls marks) :
    let r := Layer.allow app.settings r
    Action.Leaves (app.serve env request)
      (d.manner.finish request.method (Layer.stamped env request (Layer.settled r))) calls
      (marks ++ [.response (Layer.measured env d.incoming r)]) := by
  intro marked
  have hoptions : d.incoming.request.method ≠ .options := by rwa [dispatch?_request h]
  have hinnermost (j : Journal) :
      d.innermost app.settings env j = (marked, (d.outcome env j).2) :=
    Dispatch.innermost_answered _ _ hoptions (hr.result _)
  constructor
  case result => exact fun j => by rw [serve_run_main h hd, hinnermost]
  case calls =>
    intro j
    rw [serve_run_main h hd, hinnermost]
    exact hr.calls _
  case metrics =>
    intro j
    have hinside : (d.outcome env j).2.metrics = marks.foldl Mark.apply j.metrics := hr.metrics _
    rw [serve_run_main h hd, hinnermost, List.foldl_append, ← hinside]
    rfl

end App

end ProbeGateway
