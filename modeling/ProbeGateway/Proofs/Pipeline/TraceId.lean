import ProbeGateway.Proofs.Pipeline.Coverage

/-!
# One trace id for a request

The trace id of a request is settled before anything else is done with it, and all that tells it
tells the same.

1. A handler meets the request only with its trace id, in its headers and as it is shown
   (`serve_of_seen`).
2. The innermost response has no trace ids but those that the handler gave it
   (`values_traceHeader_innermost`), settling keeps these, and where there are none the id of the
   request is put in (`values_traceHeader_serve_main`).
3. The span of the request shows the id, and no layer opens another one (`span_serve_main`).
-/

namespace ProbeGateway

namespace Layer

/-- An id is shown if all of its characters are printable, or tabs. -/
theorem shownTraceId_eq (id : String) :
    shownTraceId id =
      if id.toList.all fun c => (0x20 ≤ c.toNat ∧ c.toNat ≤ 0x7E) ∨ c = '\t' then id else "" := by
  have hvisible : isVisible = fun c => decide ((0x20 ≤ c.toNat ∧ c.toNat ≤ 0x7E) ∨ c = '\t') := by
    funext c
    have hlast : c.toNat < 0x7F ↔ c.toNat ≤ 0x7E := Nat.lt_succ_iff
    simp only [isVisible, hlast, Bool.decide_or, Bool.decide_and]
  unfold shownTraceId
  rw [hvisible]

variable (settings : PipelineSettings) (env : Surroundings)

/-- The id that a request is given is the first that it has from then on. -/
theorem first?_traced (incoming : Incoming) :
    (traced env incoming).request.headers.first? traceHeader =
      some (traceIdOf env incoming.request) := by
  show Headers.first? traceHeader (Headers.setDefault traceHeader _ _) = _
  rw [Headers.first?_setDefault_self]
  unfold traceIdOf
  cases incoming.request.headers.first? traceHeader with
  | none => rfl
  | some id => rfl

theorem values_traceHeader_preflight : (preflight settings).headers.values traceHeader = [] := by
  unfold preflight
  rw [Headers.values_cons_of_ne (by decide +kernel), Headers.values_cons_of_ne (by decide +kernel),
    Headers.values_cons_of_ne (by decide +kernel), Headers.values_cons_of_ne (by decide +kernel),
    Headers.values_nil]

theorem values_traceHeader_panicResponse (payload : PanicPayload) :
    (panicResponse settings env payload).headers.values traceHeader = [] := by
  show Headers.values traceHeader
    (Headers.set allowOriginHeader settings.corsOrigin [(contentType, jsonType)]) = []
  rw [Headers.values_set_of_ne _ _ (by decide +kernel),
    Headers.values_cons_of_ne (by decide +kernel), Headers.values_nil]

end Layer

/-! ## The response -/

namespace Dispatch

variable {d : Dispatch} {settings : PipelineSettings} {env : Surroundings} {j : Journal}

variable (d env j) in
/-- The trace ids that the handler answers with. -/
def ownTraceIds : List String :=
  if d.incoming.request.method = .options then []
  else
    match (d.outcome env j).1 with
    | .answered r => r.headers.values traceHeader
    | .panicked _ => []

theorem ownTraceIds_of_answered (h : d.incoming.request.method ≠ .options) {r : Response}
    (hr : (d.outcome env j).1 = .answered r) :
    d.ownTraceIds env j = r.headers.values traceHeader := by
  rw [ownTraceIds, if_neg h, hr]

theorem values_traceHeader_innermost :
    (d.innermost settings env j).1.headers.values traceHeader = d.ownTraceIds env j := by
  unfold ownTraceIds
  by_cases hm : d.incoming.request.method = .options
  · rw [innermost_options settings env hm, if_pos hm]
    exact Layer.values_traceHeader_preflight settings
  · rw [if_neg hm]
    cases ho : (d.outcome env j).1 with
    | answered r =>
      rw [innermost_answered settings env hm ho]
      exact Layer.values_allow settings (by decide +kernel) (by decide +kernel) r
    | panicked payload =>
      rw [innermost_panicked settings env hm ho]
      exact Layer.values_traceHeader_panicResponse settings env payload

end Dispatch

namespace App

variable {app : App} {env : Surroundings} {request : Request} {d : Dispatch}

/-- The answer has the trace ids of the handler, or else that of the request. -/
theorem values_traceHeader_serve_main (h : app.dispatch? env request = some d)
    (hd : d.group = .main) (j : Journal) :
    ((app.serve env request).run j).1.headers.values traceHeader =
      if d.ownTraceIds env j = [] then [Layer.traceIdOf env request] else d.ownTraceIds env j := by
  rw [serve_run_main h hd, Manner.finish_values _ _ _ (by decide +kernel) (by decide +kernel)]
  show Headers.values traceHeader (Headers.setDefault traceHeader _ _) = _
  rw [Headers.values_setDefault_self,
    Layer.values_settled (by decide +kernel) (by decide +kernel),
    Dispatch.values_traceHeader_innermost]

/-! ## The handler -/

/-- All that matters of the handler is what it does with the request that has its trace id. -/
theorem serve_of_seen (h : app.dispatch? env request = some d) (hd : d.group = .main)
    {handler : Handler}
    (hsame : handler (Layer.traced env d.incoming) = d.handler (Layer.traced env d.incoming))
    (j : Journal) :
    let inside := (handler.wrapped app.settings env d.incoming).run j
    (app.serve env request).run j = (d.manner.finish request.method inside.1, inside.2) := by
  intro inside
  have hinside : (app.within d.group env d.handler d.incoming).run j = inside := by
    unfold within
    rw [hd]
    show (d.handler.wrapped app.settings env d.incoming).run j = inside
    rw [← Layer.wrapped_congr app.settings env handler d.incoming hsame]
  rw [serve_run_some h, hinside]

/-! ## The span -/

/-- A request has one span, apart from those that its handler logs. -/
theorem span_serve_main (h : app.dispatch? env request = some d) (hd : d.group = .main)
    (ha : ∀ incoming, Action.AddsEvents (d.handler incoming)) (j : Journal) :
    ∃ rest, ((app.serve env request).run j).2.events =
        j.events ++ .requestSpan request.method.name d.incoming.template
          (Layer.shownTraceId (Layer.traceIdOf env request)) :: rest ∧
      ∀ event ∈ rest, event.isSpan = true → event ∈ d.logged env j := by
  refine ⟨.requestStarted request.method.name request.path (request.remote.getD "-") ::
    (d.logged env j ++ Layer.complaint (d.innermost app.settings env j).1 ++
      [.requestCompleted request.method.name request.path
        ((app.serve env request).run j).1.status]), ?_, ?_⟩
  · rw [events_serve_main h hd ha, Layer.opening, dispatch?_request h]
    simp only [List.append_assoc, List.cons_append, List.nil_append]
  · intro event hevent hspan
    simp only [List.mem_cons, List.mem_append, List.not_mem_nil, or_false] at hevent
    rcases hevent with rfl | (hlogged | hcomplaint) | rfl
    · exact absurd hspan (by simp [Event.isSpan])
    · exact hlogged
    · rw [Layer.eq_of_mem_complaint hcomplaint] at hspan
      exact absurd hspan (by simp [Event.isSpan])
    · exact absurd hspan (by simp [Event.isSpan])

/-- **One trace id for a request.** The id of a request of the main group is the first that it came
with, or else a fresh one; it is shown if all its characters are printable or tabs. The answer has
this id and no other, unless the handler answered with ids of its own, which are kept. Whatever the
handler does, it meets the request only with this id, and the span of the request shows the same. -/
theorem trace_id_everywhere (hd : app.dispatch? env request = some d) (hg : d.group = .main)
    (j : Journal) :
    let served := (app.serve env request).run j
    let id := ((request.headers.values "x-trace-id").head?).getD env.freshTraceId
    let shown :=
      if id.toList.all fun c => (0x20 ≤ c.toNat ∧ c.toNat ≤ 0x7E) ∨ c = '\t' then id else ""
    ((∀ r, request.method ≠ .options → (d.outcome env j).1 = .answered r →
        r.headers.values "x-trace-id" = []) →
      served.1.headers.values "x-trace-id" = [id]) ∧
    (∀ r, request.method ≠ .options → (d.outcome env j).1 = .answered r →
      r.headers.values "x-trace-id" ≠ [] →
        served.1.headers.values "x-trace-id" = r.headers.values "x-trace-id") ∧
    (∃ seen : Incoming, seen.traceId = some shown ∧
      (seen.request.headers.values "x-trace-id").head? = some id ∧
      ∀ handler : Handler, handler seen = d.handler seen →
        let inside := (app.within .main env handler d.incoming).run j
        served = (d.manner.finish request.method inside.1, inside.2)) ∧
    ((∀ incoming, Action.AddsEvents (d.handler incoming)) →
      ∃ rest, served.2.events =
          j.events ++ .requestSpan request.method.name d.incoming.template shown :: rest ∧
        ∀ event ∈ rest, event.isSpan = true → event ∈ d.logged env j) := by
  intro served id shown
  have hrequest : d.incoming.request = request := dispatch?_request hd
  have hshown : Layer.shownTraceId (Layer.traceIdOf env request) = shown :=
    Layer.shownTraceId_eq id
  have hvalues : served.1.headers.values "x-trace-id" =
      if d.ownTraceIds env j = [] then [id] else d.ownTraceIds env j :=
    values_traceHeader_serve_main hd hg j
  refine ⟨fun hnone => ?_, fun r hm hr hown => ?_, ?_, fun ha => ?_⟩
  · have hown : d.ownTraceIds env j = [] := by
      unfold Dispatch.ownTraceIds
      rw [hrequest]
      split
      · rfl
      · next hm =>
        cases ho : (d.outcome env j).1 with
        | answered r => exact hnone r hm ho
        | panicked payload => rfl
    rw [hvalues, if_pos hown]
  · rw [← hrequest] at hm
    have hids : d.ownTraceIds env j = r.headers.values "x-trace-id" :=
      Dispatch.ownTraceIds_of_answered hm hr
    rw [hvalues, hids, if_neg hown]
  · refine ⟨Layer.traced env d.incoming, ?_, ?_, fun handler hsame => serve_of_seen hd hg hsame j⟩
    · rw [← hshown, ← hrequest]
      rfl
    · have hfirst := Layer.first?_traced env d.incoming
      rw [hrequest] at hfirst
      exact hfirst
  · obtain ⟨rest, hevents, hspans⟩ := span_serve_main hd hg ha j
    rw [← hshown]
    exact ⟨rest, hevents, hspans⟩

/-- Of two ids that cannot be shown the first is sent back, and none is shown; an id of the handler
is kept beside one that is shown. -/
theorem trace_id_everywhere_twice :
    let app : App := ⟨⟨"*"⟩, [⟨.main, "/own", some .get, fun _ =>
      .ending (.answered ⟨418, [("x-trace-id", "mine"), ("x-trace-id", "too")], [], none⟩)⟩]⟩
    let own := (app.serve .quiet ⟨.get, "/own", none, [("x-trace-id", "a\tb")], none⟩).run {}
    let asked := ((sample "" .other).serve .quiet
      ⟨.options, "/boom", none, [("x-trace-id", "é"), ("x-trace-id", "b")], none⟩).run {}
    own.1.headers.values "x-trace-id" = ["mine", "too"] ∧
      (∃ rest, own.2.events = .requestSpan "GET" "/own" "a\tb" :: rest) ∧
      asked.1.headers.values "x-trace-id" = ["é"] ∧
      ∃ rest, asked.2.events = .requestSpan "OPTIONS" "/boom" "" :: rest := by
  intro app own asked
  have hordinary : app.Ordinary := by
    intro route hroute env incoming
    rw [List.mem_singleton.mp hroute]
    exact .pure _
  have hown : app.dispatch? .quiet ⟨.get, "/own", none, [("x-trace-id", "a\tb")], none⟩ = some _ :=
    dispatch?_of_choose (show Template.choose _ _ = some ("/own", []) by decide +kernel)
  have hasked : (sample "" .other).dispatch? .quiet
      ⟨.options, "/boom", none, [("x-trace-id", "é"), ("x-trace-id", "b")], none⟩ = some _ :=
    dispatch?_of_choose (show Template.choose _ _ = some ("/boom", []) by decide +kernel)
  obtain ⟨-, hkept, -, hspan⟩ := trace_id_everywhere hown (by decide +kernel) {}
  obtain ⟨hsent, -, -, hspan'⟩ := trace_id_everywhere hasked (by decide +kernel) {}
  obtain ⟨rest, hevents, -⟩ := hspan fun incoming => (hordinary.dispatch hown incoming).addsEvents
  obtain ⟨rest', hevents', -⟩ := hspan' fun incoming =>
    ((sample_ordinary "" .other).dispatch hasked incoming).addsEvents
  rw [if_pos (by decide +kernel)] at hevents
  rw [if_neg (by decide +kernel)] at hevents'
  refine ⟨hkept _ (by decide +kernel) rfl (by decide +kernel), ⟨rest, hevents⟩, ?_, rest', hevents'⟩
  exact hsent fun r hm => absurd rfl hm

end App

end ProbeGateway
