import ProbeGateway.Proofs.Pipeline.Coverage

/-!
# The log tells what the client saw

The layers tell the story of a request in the log, around what its handler logs.

1. A failure is logged just if the innermost response fails (`complaint_innermost`), which is told
   by what the handler produced (`status_innermost`); it is the failure of the handler
   (`failureOf_innermost_answered`, `failureOf_innermost_panicked`).
2. If a response that carries a failure has its body (`Response.BodyTells`), the client reads the
   failure that was logged, unless its details are for the log (`body_serve_main_of_failure`).
3. Nothing else of the log comes from the layers, apart from the opening and the end
   (`filter_events_serve_main`).
-/

namespace ProbeGateway

/-- Whether an event is told by the layers. -/
def Event.isOfLayers : Event → Bool
  | requestSpan .. | requestStarted .. | requestCompleted .. | requestFailed .. => true
  | _ => false

/-- The body of a response that carries a failure is that of the failure. -/
def Response.BodyTells (r : Response) : Prop :=
  ∀ e, r.failure = some e → r.body = envelope e.kind e.message

namespace Layer

/-- A failed response is settled to the body of the failure that is logged, or of another one in
place of its details. -/
theorem body_settled {r : Response} (h : r.BodyTells) (hf : Http.isFailure r.status = true) :
    (settled r).body =
      if (failureOf r).kind = .internalOnly then envelope .internal "internal server error"
      else envelope (failureOf r).kind (failureOf r).message := by
  unfold settled normalised
  rw [if_pos hf]
  by_cases hk : (failureOf r).kind = .internalOnly
  · rw [if_pos hk, if_pos hk]
    exact (tells_replace r hidden).body
  · rw [if_neg hk, if_neg hk]
    cases hr : r.failure with
    | none => exact (tells_replace r (failureOf r)).body
    | some e =>
      rw [failureOf_of_failure_eq_some hr]
      exact h e hr

theorem isOfLayers_complaint {r : Response} :
    ∀ event ∈ complaint r, event.isOfLayers = true := by
  intro event hevent
  rw [eq_of_mem_complaint hevent]
  rfl

end Layer

/-! ## What the handler produced -/

namespace Dispatch

variable {d : Dispatch} {settings : PipelineSettings} {env : Surroundings} {j : Journal}

variable (d env j) in
/-- The status that came from within the layers that tell of it. -/
def produced : Nat :=
  if d.incoming.request.method = .options then 200
  else
    match (d.outcome env j).1 with
    | .answered r => r.status
    | .panicked _ => 500

theorem status_innermost : (d.innermost settings env j).1.status = d.produced env j := by
  unfold produced
  by_cases hm : d.incoming.request.method = .options
  · rw [innermost_options settings env hm, if_pos hm]
    rfl
  · rw [if_neg hm]
    cases ho : (d.outcome env j).1 with
    | answered r =>
      rw [innermost_answered settings env hm ho]
      rfl
    | panicked payload =>
      rw [innermost_panicked settings env hm ho]
      rfl

theorem bodyTells_innermost (h : ∀ r, (d.outcome env j).1 = .answered r → r.BodyTells) :
    (d.innermost settings env j).1.BodyTells := by
  by_cases hm : d.incoming.request.method = .options
  · rw [innermost_options settings env hm]
    exact nofun
  · cases ho : (d.outcome env j).1 with
    | answered r =>
      rw [innermost_answered settings env hm ho]
      exact h r ho
    | panicked payload =>
      rw [innermost_panicked settings env hm ho]
      rintro e ⟨⟩
      exact (Layer.panicFailure env payload).body_eq_envelope

theorem complaint_innermost :
    Layer.complaint (d.innermost settings env j).1 =
      if Http.isFailure (d.produced env j) then
        [.requestFailed (Layer.failureOf (d.innermost settings env j).1)]
      else [] := by
  rw [Layer.complaint, status_innermost]

theorem failureOf_innermost_answered (h : d.incoming.request.method ≠ .options) {r : Response}
    (hr : (d.outcome env j).1 = .answered r) :
    Layer.failureOf (d.innermost settings env j).1 = Layer.failureOf r := by
  rw [innermost_answered settings env h hr]
  rfl

theorem failureOf_innermost_panicked (h : d.incoming.request.method ≠ .options)
    {payload : PanicPayload} (hr : (d.outcome env j).1 = .panicked payload) :
    Layer.failureOf (d.innermost settings env j).1 = Layer.panicFailure env payload := by
  rw [innermost_panicked settings env h hr]
  rfl

end Dispatch

namespace App

variable {app : App} {env : Surroundings} {request : Request} {d : Dispatch}

/-! ## What the client reads -/

/-- The client reads the failure that is logged, or another one in place of its details. -/
theorem body_serve_main_of_failure (h : app.dispatch? env request = some d) (hd : d.group = .main)
    (hm : request.method ≠ .head) {j : Journal}
    (htells : ∀ r, (d.outcome env j).1 = .answered r → r.BodyTells)
    (hfailed : Http.isFailure (d.produced env j) = true) :
    let e := Layer.failureOf (d.innermost app.settings env j).1
    ((app.serve env request).run j).1.body =
      if e.kind = .internalOnly then envelope .internal "internal server error"
      else envelope e.kind e.message := by
  intro e
  rw [body_serve_main h hd hm]
  apply Layer.body_settled (Dispatch.bodyTells_innermost htells)
  rw [Dispatch.status_innermost, hfailed]

/-! ## What the layers tell -/

/-- If the handler logs nothing in their name, the layers tell of a request in three events, and of
a failure in one more. -/
theorem filter_events_serve_main (h : app.dispatch? env request = some d) (hd : d.group = .main)
    (ha : ∀ incoming, Action.AddsEvents (d.handler incoming)) (j : Journal)
    (hlogged : ∀ event ∈ d.logged env j, event.isOfLayers = false) :
    let served := (app.serve env request).run j
    (served.2.events.drop j.events.length).filter Event.isOfLayers =
      Layer.opening env d.incoming ++ Layer.complaint (d.innermost app.settings env j).1 ++
        [.requestCompleted request.method.name request.path served.1.status] := by
  intro served
  have hnone : (d.logged env j).filter Event.isOfLayers = [] := by
    rw [List.filter_eq_nil_iff]
    intro event hevent
    rw [hlogged event hevent]
    exact Bool.false_ne_true
  have hcomplaint : (Layer.complaint (d.innermost app.settings env j).1).filter Event.isOfLayers =
      Layer.complaint (d.innermost app.settings env j).1 :=
    List.filter_eq_self.mpr Layer.isOfLayers_complaint
  rw [events_serve_main h hd ha, List.append_assoc, List.append_assoc, List.drop_left,
    List.filter_append, List.filter_append, List.filter_append, hnone, hcomplaint, List.nil_append,
    ← List.append_assoc]
  rfl

/-- **The log tells what the client saw.** A request of the main group is started before anything
else is logged of it, and completed after everything else, with the status that the client sees. In
between its handler may log, and then one failure is logged if the handler produced a failing
status, and none otherwise. It is the failure that the handler ended with, and the client reads its
kind and its message, unless its details are for the log. -/
theorem story_told (hd : app.dispatch? env request = some d) (hg : d.group = .main)
    (ha : ∀ incoming, Action.AddsEvents (d.handler incoming)) (j : Journal) :
    let served := (app.serve env request).run j
    let method := request.method.name
    let span := Event.requestSpan method d.incoming.template
      (Layer.shownTraceId (Layer.traceIdOf env request))
    let started := Event.requestStarted method request.path (request.remote.getD "-")
    let completed := Event.requestCompleted method request.path served.1.status
    let failed := 400 ≤ d.produced env j ∧ d.produced env j < 600
    ∃ complaint : List Event,
      served.2.events =
        j.events ++ [span, started] ++ d.logged env j ++ complaint ++ [completed] ∧
      ((∀ event ∈ d.logged env j, event.isOfLayers = false) →
        (served.2.events.drop j.events.length).filter Event.isOfLayers =
          [span, started] ++ complaint ++ [completed]) ∧
      (¬ failed → complaint = []) ∧
      (failed → ∃ e : Failure, complaint = [.requestFailed e] ∧
        (∀ r, request.method ≠ .options → (d.outcome env j).1 = .answered r →
          e = r.failure.getD
            ⟨.ofStatus r.status, (Http.reason? r.status).getD "request failed", ""⟩) ∧
        (∀ payload, request.method ≠ .options → (d.outcome env j).1 = .panicked payload →
          e.kind = .internalOnly ∧
          e.message = "panic: " ++ Layer.panicText payload ++ "\n" ++ env.backtrace) ∧
        (request.method ≠ .head →
          (∀ r e, (d.outcome env j).1 = .answered r → r.failure = some e →
            r.body = envelope e.kind e.message) →
            served.1.body =
              if e.kind = .internalOnly then envelope .internal "internal server error"
              else envelope e.kind e.message)) := by
  intro served method span started completed failed
  have hrequest : d.incoming.request = request := dispatch?_request hd
  have hopening : Layer.opening env d.incoming = [span, started] := by
    rw [Layer.opening, hrequest]
  have hfailed : Http.isFailure (d.produced env j) = true ↔ failed := Http.isFailure_iff
  refine ⟨Layer.complaint (d.innermost app.settings env j).1, ?_, fun hlogged => ?_,
    fun hnot => ?_, fun hf => ?_⟩
  · rw [← hopening, List.append_assoc (_ ++ _) (d.logged env j)]
    exact events_serve_main hd hg ha j
  · rw [← hopening]
    exact filter_events_serve_main hd hg ha j hlogged
  · rw [Dispatch.complaint_innermost, if_neg fun hfail => hnot (hfailed.mp hfail)]
  · refine ⟨Layer.failureOf (d.innermost app.settings env j).1, ?_, fun r hm hr => ?_,
      fun payload hm hp => ?_, fun hm htells => ?_⟩
    · rw [Dispatch.complaint_innermost, if_pos (hfailed.mpr hf)]
    · rw [← hrequest] at hm
      exact Dispatch.failureOf_innermost_answered hm hr
    · rw [← hrequest] at hm
      rw [Dispatch.failureOf_innermost_panicked hm hp]
      exact ⟨rfl, rfl⟩
    · have hbody (r : Response) (hr : (d.outcome env j).1 = .answered r) : r.BodyTells :=
        fun e => htells r e hr
      exact body_serve_main_of_failure hd hg hm hbody (hfailed.mpr hf)

/-- A bare failure is logged under the kind that the client reads, and a handler that breaks off
under a kind that the client does not read. -/
theorem story_told_boom :
    let app := sample "" (.message "no")
    let bare := (app.serve .quiet (.to ⟨"PUT"⟩ "/tea")).run {}
    let broken := (app.serve .quiet (.to .get "/boom")).run {}
    (bare.2.events =
        [.requestSpan "PUT" "/tea" "7f0d1c52", .requestStarted "PUT" "/tea" "-",
          .requestFailed ⟨.invalidArgument, "I'm a teapot", ""⟩,
          .requestCompleted "PUT" "/tea" 400] ∧
      bare.1.body = envelope .invalidArgument "I'm a teapot") ∧
    ∃ e : Failure, e.kind = .internalOnly ∧ e.message = "panic: no\n0: main" ∧
      broken.2.events =
        [.requestSpan "GET" "/boom" "7f0d1c52", .requestStarted "GET" "/boom" "-",
          .requestFailed e, .requestCompleted "GET" "/boom" 500] ∧
      broken.1.body = envelope .internal "internal server error" := by
  intro app bare broken
  have hbare : app.dispatch? .quiet (.to ⟨"PUT"⟩ "/tea") = some _ :=
    dispatch?_of_choose (show Template.choose _ _ = some ("/tea", []) by decide +kernel)
  have hbroken : app.dispatch? .quiet (.to .get "/boom") = some _ :=
    dispatch?_of_choose (show Template.choose _ _ = some ("/boom", []) by decide +kernel)
  have hadds {request : Request} {d : Dispatch} (hd : app.dispatch? .quiet request = some d)
      (incoming : Incoming) : Action.AddsEvents (d.handler incoming) :=
    ((sample_ordinary "" (.message "no")).dispatch hd incoming).addsEvents
  obtain ⟨complaint, hevents, -, -, hfailed⟩ :=
    story_told hbare (by decide +kernel) (hadds hbare) {}
  obtain ⟨e, rfl, hkind, -, hbody⟩ := hfailed (by decide +kernel)
  obtain rfl := hkind .teapot (by decide +kernel) rfl
  obtain ⟨complaint', hevents', -, -, hfailed'⟩ :=
    story_told hbroken (by decide +kernel) (hadds hbroken) {}
  obtain ⟨e', rfl, -, hdetails, hbody'⟩ := hfailed' (by decide +kernel)
  obtain ⟨hkind', hmessage⟩ := hdetails (.message "no") (by decide +kernel) rfl
  refine ⟨⟨hevents, hbody (by decide +kernel) ?_⟩, e', hkind', hmessage, hevents', ?_⟩
  · intro r e hr he
    obtain rfl : Response.teapot = r := Outcome.answered.inj hr
    cases he
  · rw [hbody' (by decide +kernel) nofun, if_pos hkind']

end App

end ProbeGateway
