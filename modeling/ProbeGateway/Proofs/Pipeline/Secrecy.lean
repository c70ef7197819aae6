import ProbeGateway.Proofs.Pipeline.Envelope
import ProbeGateway.Proofs.Pipeline.Shape

/-!
# Details for the log stay in the log

Two applications whose main routes differ only in details, which are the message of a failure for
the log or the payload of a handler that breaks off, are told apart by nothing but the log.

1. Related applications dispatch a request to related handlers (`App.SameButDetail.dispatch?`).
2. Innermost responses to the same request are equal, or both fail with details and differ in their
   bodies alone (`Response.SameButDetail`).
3. Measuring and settling take such responses to the same record and the same response, and what is
   logged of them differs in the details alone (`SameButDetail.settled`, `SameButDetail.closed`).
-/

namespace ProbeGateway

/-! ## Differing in details -/

/-- Ends of a handler that differ in details at most. -/
inductive Outcome.SameButDetail : Outcome → Outcome → Prop
  | same (o : Outcome) : SameButDetail o o
  | failed {e e' : Failure} (he : e.kind = .internalOnly) (he' : e'.kind = .internalOnly) :
      SameButDetail (.answered e.response) (.answered e'.response)
  | panicked (p p' : PanicPayload) : SameButDetail (.panicked p) (.panicked p')

/-- Handlers that leave the same behind and end alike, apart from details. -/
def Handler.SameButDetail (h h' : Handler) : Prop :=
  ∀ incoming j, ((h incoming).run j).2 = ((h' incoming).run j).2 ∧
    ((h incoming).run j).1.SameButDetail ((h' incoming).run j).1

/-- Routes that differ in details, and not even in these without the layers. -/
structure Route.SameButDetail (r r' : Route) : Prop where
  group : r.group = r'.group
  template : r.template = r'.template
  method : r.method = r'.method
  handler : ∀ env, Handler.SameButDetail (r.handler env) (r'.handler env)
  bare : r.group = .bare → r.handler = r'.handler

/-- Applications whose routes differ in details. -/
structure App.SameButDetail (app app' : App) : Prop where
  settings : app.settings = app'.settings
  routes : List.Forall₂ Route.SameButDetail app.routes app'.routes

/-- What differs between two dispatches is details. -/
structure Dispatch.SameButDetail (d d' : Dispatch) : Prop where
  group : d.group = d'.group
  manner : d.manner = d'.manner
  incoming : d.incoming = d'.incoming
  handler : Handler.SameButDetail d.handler d'.handler
  bare : d.group = .bare → d.handler = d'.handler

/-- An event of the log without details. -/
def Event.withoutDetail : Event → Event
  | .requestFailed e =>
    if e.kind = .internalOnly then .requestFailed ⟨.internalOnly, "", ""⟩ else .requestFailed e
  | event => event

/-! ## Related dispatches -/

theorem Handler.SameButDetail.refl (h : Handler) : h.SameButDetail h :=
  fun _ _ => ⟨rfl, .same _⟩

namespace App

variable {app app' : App} (env : Surroundings)

/-- Related applications dispatch a request to related handlers. -/
theorem SameButDetail.dispatch? (h : app.SameButDetail app') (request : Request) :
    Option.Rel Dispatch.SameButDetail (app.dispatch? env request) (app'.dispatch? env request) := by
  have halike := dispatch?_alike env h.routes
    (fun r r' hr => ⟨hr.group, hr.template, hr.method⟩) request
  generalize app.dispatch? env request = o at halike ⊢
  generalize app'.dispatch? env request = o' at halike ⊢
  cases halike with
  | none => exact .none
  | some hdd =>
    refine .some ?_
    cases hdd with
    | routed hr manner incoming =>
      exact ⟨hr.group, rfl, rfl, hr.handler env, fun hb => congrFun (hr.bare hb) env⟩
    | refused group allowed incoming => exact ⟨rfl, rfl, rfl, .refl _, fun _ => rfl⟩

end App

/-! ## Related responses -/

/-- Innermost responses that are equal, or differ in bodies that hold details. -/
inductive Response.SameButDetail : Response → Response → Prop
  | same (r : Response) : SameButDetail r r
  | detailed {r r' : Response} {e e' : Failure} (hr : r.failure = some e)
      (hr' : r'.failure = some e') (he : e.kind = .internalOnly) (he' : e'.kind = .internalOnly)
      (status : r.status = 500) (status' : r'.status = 500) (headers : r.headers = r'.headers) :
      SameButDetail r r'

namespace Response.SameButDetail

variable {r r' : Response} (h : Response.SameButDetail r r')

include h

theorem status_eq : r.status = r'.status := by
  cases h with
  | same => rfl
  | detailed hr hr' he he' hs hs' hh => rw [hs, hs']

/-- The final form of a response has no details. -/
theorem settled : Layer.settled r = Layer.settled r' := by
  cases h with
  | same => rfl
  | detailed hr hr' he he' hs hs' hh =>
    have hform {r : Response} {e : Failure} (hr : r.failure = some e) (he : e.kind = .internalOnly)
        (hs : r.status = 500) : Layer.settled r = Layer.replace r Layer.hidden := by
      rw [Layer.settled, hs, if_pos (by decide), Layer.normalised,
        Layer.failureOf_of_failure_eq_some hr, if_pos he]
    rw [hform hr he hs, hform hr' he' hs', Layer.replace, Layer.replace, hh]

/-- Neither has what is recorded. -/
theorem measured (env : Surroundings) (incoming : Incoming) :
    Layer.measured env incoming r = Layer.measured env incoming r' := by
  have hkind : Layer.measuredKind r = Layer.measuredKind r' := by
    cases h with
    | same => rfl
    | detailed hr hr' he he' hs hs' hh =>
      simp only [Layer.measuredKind, hr, hr', he, he']
  rw [Layer.measured, Layer.measured, hkind, h.status_eq]

theorem complaint : (Layer.complaint r).map Event.withoutDetail =
    (Layer.complaint r').map Event.withoutDetail := by
  cases h with
  | same => rfl
  | detailed hr hr' he he' hs hs' hh =>
    have hform {r : Response} {e : Failure} (hr : r.failure = some e) (he : e.kind = .internalOnly)
        (hs : r.status = 500) : (Layer.complaint r).map Event.withoutDetail =
          [.requestFailed ⟨.internalOnly, "", ""⟩] := by
      rw [Layer.complaint, hs, if_pos (by decide), Layer.failureOf_of_failure_eq_some hr,
        List.map_singleton, Event.withoutDetail, if_pos he]
    rw [hform hr he hs, hform hr' he' hs']

/-- What is left behind differs in details of the log alone. -/
theorem closed (env : Surroundings) (incoming : Incoming) (j : Journal) :
    (Layer.closed env incoming r j).metrics = (Layer.closed env incoming r' j).metrics ∧
      (Layer.closed env incoming r j).calls = (Layer.closed env incoming r' j).calls ∧
      (Layer.closed env incoming r j).events.map Event.withoutDetail =
        (Layer.closed env incoming r' j).events.map Event.withoutDetail := by
  refine ⟨?_, rfl, ?_⟩
  · rw [Layer.closed, Layer.closed, h.measured env incoming]
  · rw [Layer.closed, Layer.closed]
    simp only [List.map_append, h.complaint, h.settled]

end Response.SameButDetail

/-! ## Innermost responses -/

namespace Dispatch

variable {d d' : Dispatch} (settings : PipelineSettings) (env : Surroundings) (j : Journal)

/-- Innermost responses to the same request differ in details at most. -/
theorem SameButDetail.innermost (h : d.SameButDetail d') :
    (d.innermost settings env j).1.SameButDetail (d'.innermost settings env j).1 ∧
      (d.innermost settings env j).2 = (d'.innermost settings env j).2 := by
  obtain ⟨hjournal, houtcome⟩ := h.handler (Layer.traced env d.incoming)
    (Layer.opened env d.incoming j)
  have hrun : d'.outcome env j = (d'.handler (Layer.traced env d.incoming)).run
      (Layer.opened env d.incoming j) := by rw [outcome, ← h.incoming]
  rw [← hrun] at hjournal houtcome
  change (d.outcome env j).2 = (d'.outcome env j).2 at hjournal
  change Outcome.SameButDetail (d.outcome env j).1 (d'.outcome env j).1 at houtcome
  by_cases hm : d.incoming.request.method = .options
  · have hm' : d'.incoming.request.method = .options := h.incoming ▸ hm
    rw [innermost_options settings env hm, innermost_options settings env hm', h.incoming]
    exact ⟨.same _, rfl⟩
  · have hm' : d'.incoming.request.method ≠ .options := h.incoming ▸ hm
    generalize ho : (d.outcome env j).1 = o at houtcome
    generalize ho' : (d'.outcome env j).1 = o' at houtcome
    cases houtcome with
    | same =>
      cases o with
      | answered r =>
        rw [innermost_answered settings env hm ho, innermost_answered settings env hm' ho']
        exact ⟨.same _, hjournal⟩
      | panicked payload =>
        rw [innermost_panicked settings env hm ho, innermost_panicked settings env hm' ho',
          hjournal]
        exact ⟨.same _, rfl⟩
    | failed he he' =>
      rw [innermost_answered settings env hm ho, innermost_answered settings env hm' ho']
      refine ⟨.detailed rfl rfl he he' ?_ ?_ rfl, hjournal⟩
      · exact congrArg ErrorKind.httpStatus he
      · exact congrArg ErrorKind.httpStatus he'
    | panicked p p' =>
      rw [innermost_panicked settings env hm ho, innermost_panicked settings env hm' ho', hjournal]
      exact ⟨.detailed rfl rfl rfl rfl rfl rfl rfl, rfl⟩

end Dispatch

/-- A handler ends in a way that has details. -/
inductive Outcome.Detailed : Outcome → Prop
  | failed {e : Failure} (h : e.kind = .internalOnly) : Detailed (.answered e.response)
  | panicked (p : PanicPayload) : Detailed (.panicked p)

theorem Outcome.Detailed.plain {o : Outcome} (h : o.Detailed) : o.Plain := by
  cases h with
  | failed h => exact .failed _
  | panicked p => exact .panicked p

/-- What a client is told in place of details. -/
theorem envelope_hidden :
    envelope .internal "internal server error" =
      octets "\x7b\"code\":14,\"message\":\"internal server error\"\x7d" := by decide +kernel

namespace Dispatch

variable {d : Dispatch} (settings : PipelineSettings) {env : Surroundings} {j : Journal}

/-- Instead of details a client gets a failure that is the same for all. -/
theorem settled_of_detailed (hm : d.incoming.request.method ≠ .options)
    (ho : (d.outcome env j).1.Detailed) :
    (Layer.settled (d.innermost settings env j).1).status = 500 ∧
      (Layer.settled (d.innermost settings env j).1).body =
        envelope .internal "internal server error" := by
  have hplain := ho.plain
  have hfail : ∃ e, (d.innermost settings env j).1.failure = some e ∧ e.kind = .internalOnly ∧
      (d.innermost settings env j).1.status = 500 := by
    generalize ho' : (d.outcome env j).1 = o at ho hplain
    cases ho with
    | failed h =>
      rw [innermost_answered settings env hm ho']
      exact ⟨_, rfl, h, congrArg ErrorKind.httpStatus h⟩
    | panicked p =>
      rw [innermost_panicked settings env hm ho']
      exact ⟨_, rfl, rfl, rfl⟩
  obtain ⟨e, he, hk, hs⟩ := hfail
  have htells := Layer.tells_settled (d.faithful_innermost settings hplain) (by rw [hs]; rfl)
  rw [Layer.reported_of_internalOnly he hk] at htells
  exact ⟨htells.status, htells.body⟩

end Dispatch

/-! ## What the client gets -/

namespace App

variable {app app' : App} (env : Surroundings) (request : Request) (j : Journal)

/-- Applications that differ in details are told apart by the log alone. -/
theorem SameButDetail.serve (h : app.SameButDetail app') :
    ((app.serve env request).run j).1 = ((app'.serve env request).run j).1 ∧
      ((app.serve env request).run j).2.metrics = ((app'.serve env request).run j).2.metrics ∧
      ((app.serve env request).run j).2.calls = ((app'.serve env request).run j).2.calls ∧
      ((app.serve env request).run j).2.events.map Event.withoutDetail =
        ((app'.serve env request).run j).2.events.map Event.withoutDetail := by
  have hdispatch := h.dispatch? env request
  generalize hd : app.dispatch? env request = o at hdispatch
  generalize hd' : app'.dispatch? env request = o' at hdispatch
  cases hdispatch with
  | none =>
    rw [serve_run_none hd, serve_run_none hd']
    exact ⟨rfl, rfl, rfl, rfl⟩
  | @some d d' hdd =>
    cases hg : d.group with
    | main =>
      have hg' : d'.group = .main := hdd.group ▸ hg
      obtain ⟨hresponse, hjournal⟩ := hdd.innermost app.settings env j
      rw [serve_run_main hd hg, serve_run_main hd' hg', ← h.settings, ← hdd.manner,
        ← hdd.incoming, ← hresponse.settled, ← hjournal]
      exact ⟨rfl, hresponse.closed env d.incoming (d.innermost app.settings env j).2⟩
    | bare =>
      have hg' : d'.group = .bare := hdd.group ▸ hg
      rw [serve_run_some hd, serve_run_some hd', ← hdd.manner, ← hdd.incoming, ← hdd.bare hg, hg,
        hg']
      exact ⟨rfl, rfl, rfl, rfl⟩

/-- **Details stay inside.** Applications that differ in details answer a request alike, leave the
same metrics and calls behind, and log the same apart from details; and where there are details, the
client gets a failure without any. -/
theorem details_stay_inside (h : app.SameButDetail app') :
    let run := (app.serve env request).run j
    let run' := (app'.serve env request).run j
    run.1 = run'.1 ∧ run.2.metrics = run'.2.metrics ∧ run.2.calls = run'.2.calls ∧
      run.2.events.map Event.withoutDetail = run'.2.events.map Event.withoutDetail ∧
      ∀ d, app.dispatch? env request = some d → d.group = .main → request.method ≠ .options →
        (d.outcome env j).1.Detailed →
        run.1.status = 500 ∧ (request.method ≠ .head → run.1.body =
          octets "\x7b\"code\":14,\"message\":\"internal server error\"\x7d") := by
  intro run run'
  obtain ⟨hresponse, hmetrics, hcalls, hevents⟩ := h.serve env request j
  refine ⟨hresponse, hmetrics, hcalls, hevents, ?_⟩
  intro d hd hg hm ho
  rw [← dispatch?_request hd] at hm
  obtain ⟨hstatus, hbody⟩ := d.settled_of_detailed app.settings hm ho
  refine ⟨(status_serve_main hd hg j).trans hstatus, fun hh => ?_⟩
  rw [← envelope_hidden]
  exact (body_serve_main hd hg hh j).trans hbody

/-- Samples differ in details. -/
theorem sample_sameButDetail (detail detail' : String) (payload payload' : PanicPayload) :
    (sample detail payload).SameButDetail (sample detail' payload') := by
  have hsame (r : Route) : r.SameButDetail r :=
    ⟨rfl, rfl, rfl, fun env => .refl _, fun _ => rfl⟩
  refine ⟨rfl, .cons (hsame _) (.cons ?_ (.cons ?_ (.cons (hsame _) (.cons (hsame _) .nil))))⟩
  · exact ⟨rfl, rfl, rfl, fun _ _ _ => ⟨rfl, .failed rfl rfl⟩, by simp⟩
  · exact ⟨rfl, rfl, rfl, fun _ _ _ => ⟨rfl, .panicked _ _⟩, by simp⟩

/-- Nobody learns what a handler said when it broke off. -/
theorem details_stay_inside_boom :
    let run := ((sample "" (.message "the password is hunter2")).serve .quiet
      (.to .get "/boom")).run {}
    let run' := ((sample "" .other).serve .quiet (.to .get "/boom")).run {}
    run.1 = run'.1 ∧ run.2.metrics = run'.2.metrics ∧ run.1.status = 500 ∧
      run.1.body = octets "\x7b\"code\":14,\"message\":\"internal server error\"\x7d" := by
  have hd : (sample "" (.message "the password is hunter2")).dispatch? .quiet (.to .get "/boom") =
      some _ :=
    dispatch?_of_choose (show Template.choose _ _ = some ("/boom", []) by decide +kernel)
  obtain ⟨hresponse, hmetrics, -, -, htold⟩ := details_stay_inside .quiet (.to .get "/boom") {}
    (sample_sameButDetail "" "" (.message "the password is hunter2") .other)
  obtain ⟨hstatus, hbody⟩ := htold _ hd (by decide +kernel) (by decide +kernel) (.panicked _)
  exact ⟨hresponse, hmetrics, hstatus, hbody (by decide +kernel)⟩

end App

end ProbeGateway
