import ProbeGateway.Proofs.Pipeline.Envelope

/-!
# What is measured and what the client sees

The measuring layer lies within the layer that settles failures. It records the innermost response,
the client gets the settled one, and the two tell the same unless a handler fails without telling of
a failure (`Dispatch.FailsUntold`).

1. A recorded series gives its status and its kind away (`httpRequests_serve_main`,
   `httpErrors_serve_main`).
2. The recorded status is the settled one just if settling keeps the status (`status_settled_iff`,
   `status_measured_iff`).
3. The recorded kind is the one in the settled body just if the handler told of a failure, or said
   by itself what is recorded (`kind_settled_iff`, `kind_measured_iff`).
-/

namespace ProbeGateway

/-! ## Failing without telling of a failure -/

/-- A handler is reached and answers with a status that counts as failed, but carries no failure. -/
def Dispatch.FailsUntold (d : Dispatch) (env : Surroundings) (j : Journal) (status : Nat) : Prop :=
  d.incoming.request.method ≠ .options ∧ 400 ≤ status ∧
    ∃ r, (d.outcome env j).1 = .answered r ∧ r.failure = none ∧ r.status = status

theorem Dispatch.failsUntold_iff {d : Dispatch} (settings : PipelineSettings) {env : Surroundings}
    {j : Journal} {status : Nat} :
    d.FailsUntold env j status ↔
      400 ≤ status ∧ (d.innermost settings env j).1.failure = none ∧
        (d.innermost settings env j).1.status = status := by
  constructor
  · rintro ⟨hm, hs, r, ho, hr, hrs⟩
    rw [innermost_answered settings env hm ho]
    exact ⟨hs, hr, hrs⟩
  · rintro ⟨hs, hr, hrs⟩
    by_cases hm : d.incoming.request.method = .options
    · -- The answer to a preflight question does not fail.
      rw [innermost_options settings env hm] at hrs
      have : (200 : Nat) = status := hrs
      omega
    · cases ho : (d.outcome env j).1 with
      | answered r =>
        rw [innermost_answered settings env hm ho] at hr hrs
        exact ⟨hm, hs, r, ho, hr, hrs⟩
      | panicked payload =>
        rw [innermost_panicked settings env hm ho] at hr
        exact absurd hr (by simp [Layer.panicResponse, Failure.response])

/-! ## Recorded and settled -/

namespace Layer

variable {r : Response} (h : r.Faithful)

include h

/-- Settling keeps a status unless it stands for a kind with another one. -/
theorem status_settled_iff :
    r.status = (settled r).status ↔
      (r.failure = none → Http.isFailure r.status = true →
        (ErrorKind.ofStatus r.status).httpStatus = r.status) := by
  cases hf : Http.isFailure r.status with
  | false =>
    simp [settled_of_not_isFailure hf]
  | true =>
    rw [(tells_settled h hf).status]
    cases hr : r.failure with
    | none =>
      rw [reported_of_failure_eq_none hr]
      simpa using eq_comm
    | some e =>
      have hs : r.status = (reported r).kind.httpStatus := by
        rw [(h e hr).status]
        by_cases hk : e.kind = .internalOnly
        · rw [reported_of_internalOnly hr hk, hk]
          rfl
        · rw [reported_of_failure_eq_some hr hk]
      simp [← hs]

omit h in
/-- Settling does not make a failed response of another one. -/
theorem le_status_of_settled (hs : 400 ≤ (settled r).status) : 400 ≤ r.status := by
  refine Nat.le_of_not_lt fun hlt => ?_
  have hf : Http.isFailure r.status = false :=
    Bool.eq_false_iff.mpr fun h => absurd (Http.isFailure_iff.mp h).1 (Nat.not_le.mpr hlt)
  rw [settled_of_not_isFailure hf] at hs
  omega

omit h in
/-- A response that carries a failure is recorded under the kind that its settled body tells of. -/
theorem measuredKind_of_failure_eq_some {e : Failure} (hr : r.failure = some e) :
    measuredKind r = (reported r).kind.name := by
  have hm : measuredKind r = e.kind.clientFacing.name := by rw [measuredKind, hr]
  by_cases hk : e.kind = .internalOnly
  · rw [hm, reported_of_internalOnly hr hk, hk]
    rfl
  · rw [hm, reported_of_failure_eq_some hr hk, ErrorKind.clientFacing_of_ne hk]

/-- The settled body tells of the recorded kind if there was a failure to carry, and else only if it
is what the handler said beyond the statuses that are settled. -/
theorem kind_settled_iff (hs : 400 ≤ r.status) :
    (∃ kind message, (settled r).body = envelope kind message ∧ kind.name = measuredKind r) ↔
      (r.failure = none → 600 ≤ r.status ∧
        ∃ message, (settled r).body = envelope .unknown message) := by
  cases hr : r.failure with
  | some e =>
    have hf : Http.isFailure r.status = true := by
      rw [(h e hr).status]
      exact ErrorKind.isFailure_httpStatus _
    have hb := (tells_settled h hf).body
    simp only [reduceCtorEq, false_implies, iff_true]
    exact ⟨_, _, hb, (measuredKind_of_failure_eq_some hr).symm⟩
  | none =>
    have hm : measuredKind r = ErrorKind.unknown.name := by
      rw [measuredKind, hr]
      rfl
    rw [hm]
    constructor
    · rintro ⟨kind, message, hb, hk⟩ -
      rw [ErrorKind.name_injective hk] at hb
      refine ⟨?_, message, hb⟩
      -- Below, the settled body would tell of the kind that the status stands for.
      refine Nat.le_of_not_lt fun hlt => ?_
      have hf : Http.isFailure r.status = true := Http.isFailure_iff.mpr ⟨hs, hlt⟩
      have hb' := (tells_settled h hf).body
      rw [hb, reported_of_failure_eq_none hr] at hb'
      exact ErrorKind.ofStatus_ne_unknown hf (kind_eq_of_envelope_eq hb').symm
    · intro hsaid
      obtain ⟨-, message, hb⟩ := hsaid rfl
      exact ⟨.unknown, message, hb, rfl⟩

end Layer

/-! ## What the client gets -/

namespace App

variable {app : App} {env : Surroundings} {request : Request} {d : Dispatch} {j : Journal}

/-- A request is recorded under the status of its innermost response. -/
theorem httpRequests_serve_main (hd : app.dispatch? env request = some d) (hg : d.group = .main) :
    ((app.serve env request).run j).2.metrics.httpRequests =
      (d.innermost app.settings env j).2.metrics.httpRequests.add
        (Metrics.requestSeries request.method.name d.incoming.template
          (d.innermost app.settings env j).1.status) := by
  rw [serve_run_main hd hg, ← dispatch?_request hd, Layer.closed, Recording.complete_record]
  rfl

/-- A request that counts as failed is recorded under the kind of its innermost response. -/
theorem httpErrors_serve_main (hd : app.dispatch? env request = some d) (hg : d.group = .main)
    (hs : 400 ≤ (d.innermost app.settings env j).1.status) :
    ((app.serve env request).run j).2.metrics.httpErrors =
      (d.innermost app.settings env j).2.metrics.httpErrors.add
        (Metrics.errorSeries request.method.name d.incoming.template
          (Layer.measuredKind (d.innermost app.settings env j).1)) := by
  rw [serve_run_main hd hg, ← dispatch?_request hd, Layer.closed, Recording.complete_record]
  exact if_pos (decide_eq_true hs)

/-- The client's status is recorded just if the status of an untold failure belongs to the kind it
stands for. -/
theorem status_measured_iff (hd : app.dispatch? env request = some d) (hg : d.group = .main)
    (ho : (d.outcome env j).1.Plain) :
    ((app.serve env request).run j).2.metrics.httpRequests =
        (d.innermost app.settings env j).2.metrics.httpRequests.add
          (Metrics.requestSeries request.method.name d.incoming.template
            ((app.serve env request).run j).1.status) ↔
      ∀ status, d.FailsUntold env j status → status < 600 →
        (ErrorKind.ofStatus status).httpStatus = status := by
  have hfaith := d.faithful_innermost app.settings ho
  rw [httpRequests_serve_main hd hg, status_serve_main hd hg]
  have hseries := Layer.status_settled_iff hfaith
  simp only [Http.isFailure_iff] at hseries
  simp only [Dispatch.failsUntold_iff app.settings]
  constructor
  · rintro h status ⟨hlow, hnone, rfl⟩ hhigh
    exact hseries.mp (Metrics.status_eq_of_requestSeries_eq (Tally.add_injective h)) hnone
      ⟨hlow, hhigh⟩
  · intro h
    rw [← hseries.mpr fun hnone hrange => h _ ⟨hrange.1, hnone, rfl⟩ hrange.2]

/-- The kind whose code the client is told is recorded just if nothing fails untold, responses aside
that tell of that kind by themselves. -/
theorem kind_measured_iff (hd : app.dispatch? env request = some d) (hg : d.group = .main)
    (ho : (d.outcome env j).1.Plain) (hfailed : 400 ≤ ((app.serve env request).run j).1.status) :
    let told := (Layer.settled (d.innermost app.settings env j).1).body
    (∃ kind message, told = envelope kind message ∧
        ((app.serve env request).run j).2.metrics.httpErrors =
          (d.innermost app.settings env j).2.metrics.httpErrors.add
            (Metrics.errorSeries request.method.name d.incoming.template kind.name)) ↔
      ∀ status, d.FailsUntold env j status →
        600 ≤ status ∧ ∃ message, told = envelope .unknown message := by
  intro told
  rw [status_serve_main hd hg] at hfailed
  have hlow := Layer.le_status_of_settled hfailed
  have hkind := Layer.kind_settled_iff (d.faithful_innermost app.settings ho) hlow
  rw [httpErrors_serve_main hd hg hlow]
  simp only [Dispatch.failsUntold_iff app.settings]
  constructor
  · rintro ⟨kind, message, hbody, hseries⟩ status ⟨-, hnone, rfl⟩
    have hname := Metrics.code_eq_of_errorSeries_eq (Tally.add_injective hseries)
    exact hkind.mp ⟨kind, message, hbody, hname.symm⟩ hnone
  · intro h
    obtain ⟨kind, message, hbody, hname⟩ := hkind.mpr fun hnone => h _ ⟨hlow, hnone, rfl⟩
    exact ⟨kind, message, hbody, by rw [hname]⟩

/-- **What is measured is what the client saw**, unless a handler fails untold. The recorded status
is that of the client just if the status of an untold failure belongs to the kind it stands for; and
the recorded kind is the one whose code the client is told just if nothing fails untold, responses
aside that say it themselves. -/
theorem measured_as_seen_iff (hd : app.dispatch? env request = some d) (hg : d.group = .main)
    (ho : (d.outcome env j).1.Plain) :
    let response := ((app.serve env request).run j).1
    let before := (d.innermost app.settings env j).2.metrics
    let after := ((app.serve env request).run j).2.metrics
    let told := (Layer.settled (d.innermost app.settings env j).1).body
    (after.httpRequests = before.httpRequests.add
        (Metrics.requestSeries request.method.name d.incoming.template response.status) ↔
      ∀ status, d.FailsUntold env j status → status < 600 →
        (ErrorKind.ofStatus status).httpStatus = status) ∧
    (response.body = told ∨ request.method = .head ∧ response.body = []) ∧
    (400 ≤ response.status →
      ((∃ kind message, told = envelope kind message ∧ after.httpErrors =
          before.httpErrors.add
            (Metrics.errorSeries request.method.name d.incoming.template kind.name)) ↔
        ∀ status, d.FailsUntold env j status →
          600 ≤ status ∧ ∃ message, told = envelope .unknown message)) := by
  intro response before after told
  refine ⟨status_measured_iff hd hg ho, body_serve_main_or hd hg j, fun hfailed => ?_⟩
  exact kind_measured_iff hd hg ho hfailed

/-- A teapot, which the client gets to know as an invalid argument with status 400, is recorded
neither under that status nor under that kind. -/
theorem measured_as_seen_teapot :
    let served := ((sample "" .other).serve .quiet (.to ⟨"PUT"⟩ "/tea")).run {}
    served.1.status = 400 ∧
      served.2.metrics.httpRequests ≠ Tally.add (Metrics.requestSeries "PUT" "/tea" 400) [] ∧
      ¬ ∃ kind message, served.1.body = envelope kind message ∧
        served.2.metrics.httpErrors =
          Tally.add (Metrics.errorSeries "PUT" "/tea" kind.name) [] := by
  intro served
  have hd : (sample "" .other).dispatch? .quiet (.to ⟨"PUT"⟩ "/tea") = some _ :=
    dispatch?_of_choose (show Template.choose _ _ = some ("/tea", []) by decide +kernel)
  obtain ⟨hstatus, hbody, hkind⟩ := measured_as_seen_iff (j := {}) hd (by decide +kernel)
    (.bare 418 Response.teapot.headers Response.teapot.body)
  have hs : served.1.status = 400 := by decide +kernel
  have htold := hbody.resolve_right fun h => absurd h.1 (by decide +kernel)
  have huntold : Dispatch.FailsUntold ((sample "" .other).dispatchAt .quiet
      ⟨.to ⟨"PUT"⟩ "/tea", "/tea", [], none⟩) .quiet {} 418 :=
    ⟨by decide +kernel, by decide +kernel, _, rfl, rfl, rfl⟩
  refine ⟨hs, fun h => ?_, fun ⟨kind, message, hb, he⟩ => ?_⟩
  · exact absurd (hstatus.mp h 418 huntold (by decide)) (by decide)
  · have := (hkind (Nat.le_of_eq hs.symm)).mp ⟨kind, message, htold.symm.trans hb, he⟩ 418 huntold
    exact absurd this.1 (by decide)

end App

end ProbeGateway
