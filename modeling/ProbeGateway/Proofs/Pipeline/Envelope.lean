import ProbeGateway.Proofs.Failure.Envelope
import ProbeGateway.Proofs.Pipeline.Dispatch
import ProbeGateway.Proofs.Pipeline.Replacing

/-!
# Every failure has one form

Whatever a handler of the main group does, a failure reaches the client as the envelope of a kind
that may be seen, under the status of that kind and with one media type.

1. A response that carries a failure tells of that failure (`Response.Faithful`); this holds of
   every response that a handler may end with (`Outcome.Plain`), and the layers keep it
   (`faithful_innermost`).
2. A faithful response that fails is settled to one that tells what it reports (`tells_settled`).
3. The layers further out change neither status nor body nor media type, so that the client gets
   just that (`tells_serve_main`).
-/

namespace ProbeGateway

/-! ## What handlers may end with -/

/-- A handler ends with a JSON value, with a failure, with a response that carries none, or not. -/
inductive Outcome.Plain : Outcome → Prop
  | value (v : Json) : Plain (.answered (.ofJson v))
  | failed (e : Failure) : Plain (.answered e.response)
  | bare (status : Nat) (headers : Headers) (body : Bytes) :
      Plain (.answered ⟨status, headers, body, none⟩)
  | panicked (payload : PanicPayload) : Plain (.panicked payload)

namespace Response

/-- A response is the envelope of a kind and a message, under the status of the kind and with one
media type. -/
structure Tells (r : Response) (kind : ErrorKind) (message : String) : Prop where
  status : r.status = kind.httpStatus
  body : r.body = envelope kind message
  mediaType : r.headers.values contentType = [jsonType]

/-- A response that carries a failure tells of that failure. -/
def Faithful (r : Response) : Prop := ∀ e, r.failure = some e → r.Tells e.kind e.message

theorem tells_response (e : Failure) : e.response.Tells e.kind e.message where
  status := rfl
  body := e.body_eq_envelope
  mediaType := by simp [Failure.response, Response.ofBody, Headers.values_cons]

/-- Finishing a response does not matter, unless only its headers were asked for. -/
theorem Tells.finish {r : Response} {kind : ErrorKind} {message : String}
    (h : r.Tells kind message) (manner : Manner) {method : Method} (hm : method ≠ .head) :
    (manner.finish method r).Tells kind message where
  status := (manner.finish_status method r).trans h.status
  body := (manner.finish_body r hm).trans h.body
  mediaType :=
    (manner.finish_values method r (by decide +kernel) (by decide +kernel)).trans h.mediaType

theorem faithful_of_failure_eq_none {r : Response} (h : r.failure = none) : r.Faithful := by
  intro e he
  rw [h] at he
  exact absurd he (by simp)

theorem faithful_response (e : Failure) : e.response.Faithful := by
  rintro e' he
  obtain rfl : e = e' := Option.some.inj he
  exact tells_response e

/-- Other headers do not matter. -/
theorem Faithful.withHeaders {r : Response} (h : r.Faithful) {headers : Headers}
    (hv : headers.values contentType = r.headers.values contentType) :
    ({ r with headers := headers } : Response).Faithful := by
  intro e he
  exact ⟨(h e he).status, (h e he).body, hv.trans (h e he).mediaType⟩

end Response

namespace Layer

variable (settings : PipelineSettings) (env : Surroundings)

/-! ## Other headers -/

/-- Marking a response for another origin touches two headers. -/
theorem values_allow {name : String} (hv : name ≠ varyHeader) (ho : name ≠ allowOriginHeader)
    (r : Response) : (allow settings r).headers.values name = r.headers.values name := by
  have : ¬ varyHeader = name := fun e => hv e.symm
  unfold allow
  rw [Headers.values_set_of_ne _ _ ho]
  simp [Headers.append, Headers.values_cons, this]

theorem faithful_allow {r : Response} (h : r.Faithful) : (allow settings r).Faithful :=
  h.withHeaders (values_allow settings (by decide +kernel) (by decide +kernel) r)

theorem faithful_panicResponse (payload : PanicPayload) :
    (panicResponse settings env payload).Faithful :=
  (Response.faithful_response _).withHeaders
    (Headers.values_set_of_ne _ _ (by decide +kernel))

/-! ## Failures in their final form -/

theorem failureOf_of_failure_eq_some {r : Response} {e : Failure} (h : r.failure = some e) :
    failureOf r = e := by
  rw [failureOf, h]
  rfl

theorem settled_of_not_isFailure {r : Response} (h : Http.isFailure r.status = false) :
    settled r = r := by
  rw [settled, h]
  rfl

/-- What a client is told of a response that fails. -/
def reported (r : Response) : Failure :=
  if (failureOf r).kind = .internalOnly then hidden else failureOf r

theorem reported_kind_ne (r : Response) : (reported r).kind ≠ .internalOnly := by
  unfold reported
  split
  · decide
  · assumption

theorem tells_replace (r : Response) (e : Failure) : (replace r e).Tells e.kind e.message where
  status := rfl
  body := e.body_eq_envelope
  mediaType := by rw [values_replace, if_pos rfl]

/-- A response that fails is settled to the failure it reports. -/
theorem tells_settled {r : Response} (h : r.Faithful) (hf : Http.isFailure r.status = true) :
    (settled r).Tells (reported r).kind (reported r).message := by
  unfold settled normalised reported
  rw [if_pos hf]
  by_cases hk : (failureOf r).kind = .internalOnly
  · rw [if_pos hk, if_pos hk]
    exact tells_replace r hidden
  · rw [if_neg hk, if_neg hk]
    cases hr : r.failure with
    | none => exact tells_replace r (failureOf r)
    | some e =>
      rw [failureOf_of_failure_eq_some hr]
      exact h e hr

/-- Settling neither makes nor hides a failure. -/
theorem isFailure_settled {r : Response} (h : r.Faithful) :
    Http.isFailure (settled r).status = Http.isFailure r.status := by
  cases hf : Http.isFailure r.status with
  | true => rw [(tells_settled h hf).status, ErrorKind.isFailure_httpStatus]
  | false => rw [settled_of_not_isFailure hf, hf]

theorem reported_of_failure_eq_none {r : Response} (h : r.failure = none) :
    reported r = ⟨.ofStatus r.status, (Http.reason? r.status).getD "request failed", ""⟩ := by
  have he : failureOf r =
      ⟨.ofStatus r.status, (Http.reason? r.status).getD "request failed", ""⟩ := by
    rw [failureOf, h]
    rfl
  unfold reported
  rw [he, if_neg (ErrorKind.ofStatus_ne_internalOnly _)]

theorem reported_of_failure_eq_some {r : Response} {e : Failure} (h : r.failure = some e)
    (hk : e.kind ≠ .internalOnly) : reported r = e := by
  unfold reported
  rw [failureOf_of_failure_eq_some h, if_neg hk]

theorem reported_of_internalOnly {r : Response} {e : Failure} (h : r.failure = some e)
    (hk : e.kind = .internalOnly) : reported r = hidden := by
  unfold reported
  rw [failureOf_of_failure_eq_some h, if_pos hk]

end Layer

/-! ## The innermost response -/

namespace Dispatch

variable {d : Dispatch} (settings : PipelineSettings) {env : Surroundings} {j : Journal}

/-- The response to be measured is faithful if the handler ends in one of the usual ways. -/
theorem faithful_innermost (h : (d.outcome env j).1.Plain) :
    (d.innermost settings env j).1.Faithful := by
  by_cases hm : d.incoming.request.method = .options
  · rw [innermost_options settings env hm]
    exact Response.faithful_of_failure_eq_none rfl
  · cases ho : (d.outcome env j).1 with
    | answered r =>
      rw [innermost_answered settings env hm ho]
      rw [ho] at h
      apply Layer.faithful_allow
      cases h with
      | value v => exact Response.faithful_of_failure_eq_none rfl
      | failed e => exact Response.faithful_response e
      | bare status headers body => exact Response.faithful_of_failure_eq_none rfl
    | panicked payload =>
      rw [innermost_panicked settings env hm ho]
      exact Layer.faithful_panicResponse settings env payload

end Dispatch

/-! ## What the client gets -/

namespace App

variable {app : App} {env : Surroundings} {request : Request} {d : Dispatch} {j : Journal}

/-- The layers further out keep what a settled response tells. -/
theorem tells_serve_main (hd : app.dispatch? env request = some d) (hg : d.group = .main)
    (hm : request.method ≠ .head) {kind : ErrorKind} {message : String}
    (h : (Layer.settled (d.innermost app.settings env j).1).Tells kind message) :
    ((app.serve env request).run j).1.Tells kind message where
  status := (status_serve_main hd hg j).trans h.status
  body := (body_serve_main hd hg hm j).trans h.body
  mediaType := by
    rw [← h.mediaType]
    exact values_serve_main hd hg (by decide +kernel) (by decide +kernel) (by decide +kernel) j

/-- A value that a handler ends with reaches the client. -/
theorem serve_main_of_value (hd : app.dispatch? env request = some d) (hg : d.group = .main)
    (hopt : request.method ≠ .options) (hm : request.method ≠ .head) {v : Json}
    (ho : (d.outcome env j).1 = .answered (.ofJson v)) :
    ((app.serve env request).run j).1.status = 200 ∧
      ((app.serve env request).run j).1.body = v.body := by
  rw [← dispatch?_request hd] at hopt
  have hsettled : Layer.settled (d.innermost app.settings env j).1 =
      Layer.allow app.settings (.ofJson v) := by
    rw [d.innermost_answered app.settings env hopt ho]
    exact Layer.settled_of_not_isFailure rfl
  rw [status_serve_main hd hg, body_serve_main hd hg hm, hsettled]
  exact ⟨rfl, rfl⟩

/-- A failure that a handler ends with is told to the client, if it may be seen. -/
theorem tells_serve_main_of_failure (hd : app.dispatch? env request = some d) (hg : d.group = .main)
    (hopt : request.method ≠ .options) (hm : request.method ≠ .head) {e : Failure}
    (he : (d.outcome env j).1 = .answered e.response) (hk : e.kind ≠ .internalOnly) :
    ((app.serve env request).run j).1.Tells e.kind e.message := by
  rw [← dispatch?_request hd] at hopt
  have hinner : (d.innermost app.settings env j).1 = Layer.allow app.settings e.response :=
    congrArg Prod.fst (d.innermost_answered app.settings env hopt he)
  have hfaith : (d.innermost app.settings env j).1.Faithful := by
    rw [hinner]
    exact Layer.faithful_allow app.settings (Response.faithful_response e)
  have hrep : Layer.reported (d.innermost app.settings env j).1 = e :=
    Layer.reported_of_failure_eq_some (by rw [hinner]; rfl) hk
  have hf : Http.isFailure (d.innermost app.settings env j).1.status = true := by
    rw [hinner]
    exact e.kind.isFailure_httpStatus
  have htells := Layer.tells_settled hfaith hf
  rw [hrep] at htells
  exact tells_serve_main hd hg hm htells

/-- The result of a handler reaches the client that fetches it: a value as it is, and a failure as
far as it may be seen. -/
theorem serve_main_of_result (hd : app.dispatch? env request = some d) (hg : d.group = .main)
    (hget : request.method = .get) {result : Except Failure Json}
    (ho : (d.outcome env j).1 = .answered (.ofResult result)) :
    let response := ((app.serve env request).run j).1
    (∀ v, result = .ok v → response.status = 200 ∧ response.body = v.body) ∧
    (∀ e, result = .error e → e.kind ≠ .internalOnly → response.Tells e.kind e.message) := by
  intro response
  have hoptions : request.method ≠ .options := by
    rw [hget]
    decide
  have hhead : request.method ≠ .head := by
    rw [hget]
    decide
  refine ⟨fun v hv => ?_, fun e he hk => ?_⟩
  · rw [hv] at ho
    exact serve_main_of_value hd hg hoptions hhead ho
  · rw [he] at ho
    exact tells_serve_main_of_failure hd hg hoptions hhead ho hk

/-- **Failure envelope.** A failure of the main group reaches the client as the envelope of a kind
that may be seen. It is that of the failure that the handler ended with; and if the handler ended
with a failing status alone, it is the kind that the status stands for. -/
theorem failure_envelope (hd : app.dispatch? env request = some d) (hg : d.group = .main)
    (hm : request.method ≠ .head) (ho : (d.outcome env j).1.Plain) :
    let response := ((app.serve env request).run j).1
    (Http.isFailure response.status = true → ∃ kind message,
      kind ≠ .internalOnly ∧ 1 ≤ kind.code ∧ kind.code ≤ 16 ∧ response.Tells kind message) ∧
    (∀ e : Failure, request.method ≠ .options → (d.outcome env j).1 = .answered e.response →
      e.kind ≠ .internalOnly → response.Tells e.kind e.message) ∧
    (∀ status headers body, request.method ≠ .options →
      (d.outcome env j).1 = .answered ⟨status, headers, body, none⟩ →
      Http.isFailure status = true →
        response.Tells (.ofStatus status) ((Http.reason? status).getD "request failed")) := by
  intro response
  let innermost := (d.innermost app.settings env j).1
  have hfaith : innermost.Faithful := d.faithful_innermost app.settings ho
  -- It is enough to know what the innermost response reports.
  have htells (hf : Http.isFailure innermost.status = true) :
      response.Tells (Layer.reported innermost).kind (Layer.reported innermost).message :=
    tells_serve_main hd hg hm (Layer.tells_settled hfaith hf)
  refine ⟨fun hf => ?_, fun e hopt he hk => ?_, fun status headers body hopt he hs => ?_⟩
  · have hinner : Http.isFailure innermost.status = true := by
      rw [← Layer.isFailure_settled hfaith, ← status_serve_main hd hg]
      exact hf
    have hkind := Layer.reported_kind_ne innermost
    obtain ⟨hlow, hhigh⟩ := ErrorKind.code_mem_range hkind
    exact ⟨_, _, hkind, hlow, hhigh, htells hinner⟩
  · exact tells_serve_main_of_failure hd hg hopt hm he hk
  · rw [← dispatch?_request hd] at hopt
    have hinner : innermost = Layer.allow app.settings ⟨status, headers, body, none⟩ :=
      congrArg Prod.fst (d.innermost_answered app.settings env hopt he)
    have hst : innermost.status = status := by rw [hinner]; rfl
    have hrep := Layer.reported_of_failure_eq_none (r := innermost) (by rw [hinner]; rfl)
    have := htells (by rw [hst]; exact hs)
    rw [hrep, hst] at this
    exact this

/-- A teapot is told of as an invalid argument. -/
theorem failure_envelope_teapot :
    let response := (((sample "" .other).serve .quiet (.to ⟨"PUT"⟩ "/tea")).run {}).1
    response.Tells .invalidArgument "I'm a teapot" ∧
      ∃ kind message, kind ≠ .internalOnly ∧ response.Tells kind message := by
  have hd : (sample "" .other).dispatch? .quiet (.to ⟨"PUT"⟩ "/tea") = some _ :=
    dispatch?_of_choose (show Template.choose _ _ = some ("/tea", []) by decide +kernel)
  obtain ⟨hfailure, -, hbare⟩ := failure_envelope (j := {}) hd (by decide +kernel)
    (by decide +kernel) (.bare 418 Response.teapot.headers Response.teapot.body)
  obtain ⟨kind, message, hkind, -, -, htells⟩ := hfailure (by decide +kernel)
  exact ⟨hbare 418 _ _ (by decide +kernel) rfl rfl, kind, message, hkind, htells⟩

end App

end ProbeGateway
