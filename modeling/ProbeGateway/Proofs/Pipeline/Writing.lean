import ProbeGateway.Proofs.Json.Value
import ProbeGateway.Proofs.Pipeline.Measuring

/-!
# Two ways to write a failure

A failure can be made a response (`Failure.response`), or it can be sent as a reply (`respond`). The
responses look the same, but only the first one carries the failure, and the layers go by what a
response carries.

1. A response that a handler gives is told to the client, logged and counted by what it carries, and
   by its status alone if it carries nothing (`Delivery.tells`).
2. A reply carries nothing, so that all three are of the failure that its status stands for; its
   client reads another body, unless that is the failure itself (`reply_loses_failure`).
-/

namespace ProbeGateway

/-! ## Reading the message off an envelope -/

/-- Different messages are told apart by the body. -/
theorem message_eq_of_envelope_eq {j k : ErrorKind} {m n : String}
    (h : envelope j m = envelope k n) : m = n := by
  have hkind : j = k := kind_eq_of_envelope_eq h
  subst hkind
  have htext : envelopeText j m = envelopeText j n := encodeList_injective h
  have hwritten : Json.writeText m = Json.writeText n :=
    List.append_cancel_left (List.append_cancel_right htext)
  apply Json.body_text_injective
  unfold Json.body
  rw [Json.write, Json.write, hwritten]

theorem envelope_eq_iff {j k : ErrorKind} {m n : String} :
    envelope j m = envelope k n ↔ j = k ∧ m = n := by
  constructor
  · exact fun h => ⟨kind_eq_of_envelope_eq h, message_eq_of_envelope_eq h⟩
  · rintro ⟨rfl, rfl⟩
    rfl

/-! ## What becomes of a response -/

/-- A request to a main route, for more than headers, that its handler answers with a response. -/
structure Delivery (r : Response) where
  app : App
  env : Surroundings
  request : Request
  before : Journal
  dispatch : Dispatch
  dispatched : app.dispatch? env request = some dispatch
  main : dispatch.group = .main
  asks : request.method ≠ .options
  reads : request.method ≠ .head
  answered : (dispatch.outcome env before).1 = .answered r

namespace Delivery

variable {r : Response} (v : Delivery r)

/-- What the client gets. -/
def client : Response := ((v.app.serve v.env v.request).run v.before).1

/-- The journal as the handler leaves it. -/
def handled : Journal := (v.dispatch.outcome v.env v.before).2

/-- The journal in the end. -/
def after : Journal := ((v.app.serve v.env v.request).run v.before).2

/-- What comes of a failure: what the client is told, what is logged, and what kind is counted. -/
structure Tells (told logged : Failure) (counted : String) : Prop where
  client : v.client.Tells told.kind told.message
  events : v.after.events = v.handled.events ++
    [.requestFailed logged,
      .requestCompleted v.request.method.name v.request.path v.client.status]
  errors : v.after.metrics.httpErrors = v.handled.metrics.httpErrors.add
    (Metrics.errorSeries v.request.method.name v.dispatch.incoming.template counted)

theorem innermost :
    v.dispatch.innermost v.app.settings v.env v.before =
      (Layer.allow v.app.settings r, v.handled) := by
  have hasks := v.asks
  rw [← App.dispatch?_request v.dispatched] at hasks
  exact Dispatch.innermost_answered _ _ hasks v.answered

/-- The layers hand the response on, and it is finished last. -/
theorem client_eq :
    v.client = v.dispatch.manner.finish v.request.method
      (Layer.stamped v.env v.request (Layer.settled (Layer.allow v.app.settings r))) := by
  rw [client, App.serve_run_main v.dispatched v.main, v.innermost]

/-- A failure is told by what the response carries. -/
theorem tells (hfaith : r.Faithful) (hf : Http.isFailure r.status = true) :
    v.Tells (Layer.reported r) (Layer.failureOf r) (Layer.measuredKind r) where
  client := by
    refine App.tells_serve_main v.dispatched v.main v.reads ?_
    rw [v.innermost]
    exact Layer.tells_settled (Layer.faithful_allow v.app.settings hfaith) hf
  events := by
    have hcomplaint : Layer.complaint (Layer.allow v.app.settings r) =
        [.requestFailed (Layer.failureOf r)] := if_pos hf
    rw [after, client, App.events_serve_innermost v.dispatched v.main, v.innermost, hcomplaint,
      List.append_assoc]
    rfl
  errors := by
    have hlow : 400 ≤ (v.dispatch.innermost v.app.settings v.env v.before).1.status := by
      rw [v.innermost]
      exact (Http.isFailure_iff.mp hf).1
    rw [after, App.httpErrors_serve_main v.dispatched v.main hlow, v.innermost]
    rfl

/-- A request to the one route of an application that always gives a response. -/
def sample (r : Response) : Delivery r where
  app := ⟨⟨"https://dash.example"⟩, [⟨.main, "/r", some .get, fun _ => .ending (.answered r)⟩]⟩
  env := .quiet
  request := .to .get "/r"
  before := {}
  dispatch := ⟨.main, .ending (.answered r), .byMethod, ⟨.to .get "/r", "/r", [], none⟩⟩
  dispatched := by
    have hchoose : Template.choose "/r".toList ["/r"] = some ("/r", []) := by decide +kernel
    rw [App.dispatch?]
    exact congrArg (Option.map _) hchoose
  main := rfl
  asks := by decide
  reads := by decide
  answered := rfl

end Delivery

/-! ## Made and sent -/

/-- The failure that a status stands for by itself. -/
def Failure.ofStatus (status : Nat) : Failure :=
  ⟨.ofStatus status, (Http.reason? status).getD "request failed", ""⟩

/-- Every status of a kind is that of the kind it stands for. -/
theorem ErrorKind.httpStatus_ofStatus (k : ErrorKind) :
    (ofStatus k.httpStatus).httpStatus = k.httpStatus := by
  cases k <;> rfl

namespace Failure

variable (e : Failure)

/-- What a client may read of a failure. -/
def shown : Failure := if e.kind = .internalOnly then Layer.hidden else e

theorem reported_response : Layer.reported e.response = e.shown := rfl

theorem reported_reply : Layer.reported (respond (some e.reply)) = ofStatus e.kind.httpStatus :=
  Layer.reported_of_failure_eq_none rfl

theorem httpStatus_shown : e.shown.kind.httpStatus = e.kind.httpStatus := by
  unfold shown
  split
  · next hkind =>
    rw [hkind]
    rfl
  · rfl

/-- What may be read of a failure is what its status stands for only if the failure is just that. -/
theorem shown_eq_ofStatus_iff :
    let guessed := ofStatus e.kind.httpStatus
    e.shown.kind = guessed.kind ∧ e.shown.message = guessed.message ↔
      e.kind = guessed.kind ∧ e.message = guessed.message := by
  intro guessed
  unfold shown
  split
  · next hkind =>
    -- Neither side holds: the words for a hidden failure are not those of its status.
    refine iff_of_false (fun h => ?_) (fun h => ErrorKind.ofStatus_ne_internalOnly e.kind.httpStatus ?_)
    · have hmessage : "internal server error" = guessed.message := h.2
      unfold guessed at hmessage
      rw [hkind] at hmessage
      exact absurd hmessage (by decide +kernel)
    · exact h.1.symm.trans hkind
  · rfl

/-- **A failure that is sent as a reply is lost.** The response is that of the failure in status,
headers and body, but it carries nothing. To a request of the main group a failure that was made a
response is told, logged and counted as what it is; one that was sent is told and logged as what its
status stands for, and counted as unknown. The clients see the same status, and they read the same
body only if the failure is in kind and message just what its status stands for. -/
theorem reply_loses_failure (e : Failure) :
    let made := e.response
    let sent := respond (some e.reply)
    let guessed := ofStatus e.kind.httpStatus
    (sent.status = made.status ∧ sent.headers = made.headers ∧ sent.body = made.body) ∧
    (made.failure = some e ∧ sent.failure = none) ∧
    (∀ v : Delivery made, v.Tells e.shown e e.kind.clientFacing.name) ∧
    (∀ v : Delivery sent, v.Tells guessed guessed "Unknown") ∧
    (∀ (v : Delivery made) (w : Delivery sent),
      v.client.status = w.client.status ∧
      (v.client.body = w.client.body ↔
        e.kind = guessed.kind ∧ e.message = guessed.message)) := by
  intro made sent guessed
  have hfails : Http.isFailure e.kind.httpStatus = true := e.kind.isFailure_httpStatus
  have hmade (v : Delivery made) : v.Tells e.shown e e.kind.clientFacing.name := by
    have htells := v.tells (Response.faithful_response e) hfails
    rw [reported_response] at htells
    exact htells
  have hsent (w : Delivery sent) : w.Tells guessed guessed "Unknown" := by
    have htells := w.tells (Response.faithful_of_failure_eq_none rfl) hfails
    rw [reported_reply] at htells
    exact htells
  refine ⟨⟨rfl, rfl, rfl⟩, ⟨rfl, rfl⟩, hmade, hsent, fun v w => ⟨?_, ?_⟩⟩
  · rw [(hmade v).client.status, (hsent w).client.status, httpStatus_shown]
    exact (ErrorKind.httpStatus_ofStatus e.kind).symm
  · rw [(hmade v).client.body, (hsent w).client.body, envelope_eq_iff]
    exact e.shown_eq_ofStatus_iff

/-- The client of a route that sends lost data is told of an internal error. -/
theorem reply_loses_failure_dataLoss :
    let lost : Failure := ⟨.dataLoss, "half a record", ""⟩
    let v := Delivery.sample lost.response
    let w := Delivery.sample (respond (some lost.reply))
    v.client.body = envelope .dataLoss "half a record" ∧
      w.client.body = envelope .internal "Internal Server Error" ∧
      v.client.status = w.client.status ∧ v.client.body ≠ w.client.body := by
  intro lost v w
  obtain ⟨-, -, hmade, hsent, hboth⟩ := reply_loses_failure lost
  obtain ⟨hstatus, hbody⟩ := hboth v w
  refine ⟨(hmade v).client.body, (hsent w).client.body, hstatus, ?_⟩
  rw [ne_eq, hbody]
  decide +kernel

end Failure

end ProbeGateway
