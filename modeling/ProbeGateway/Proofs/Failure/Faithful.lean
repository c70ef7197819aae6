import ProbeGateway.Proofs.Json.Written
import ProbeGateway.Proofs.Pipeline.Writing

/-!
# Bodies of failures

The body of a failure is a JSON text from which its code and its message are read back, whatever
characters the message holds (`Failure.parse_body`), so that failures with the same body have the
same kind and message (`Failure.body_eq_iff`). The place where a failure was raised shows nowhere:
neither in the response of the failure nor in what a client gets through the layers
(`Delivery.matches_of_site`).
-/

namespace ProbeGateway

/-! ## Bodies -/

namespace Failure

/-- **The code and the message are read back from the body**, in that order. -/
theorem parse_body (e : Failure) :
    Json.parseWritten e.json.body = .ok e.json ∧ Json.parse e.json.body = .ok e.json := by
  have hcode : e.kind.code < wordLimit := by cases e.kind <;> decide
  have hreadable : Json.Readable Json.maxLevels e.json :=
    .object (List.forall_mem_cons.mpr
      ⟨.nat hcode _, List.forall_mem_singleton.mpr (.text _ e.message)⟩)
  refine Json.parse_body hreadable.within hreadable.integral (Json.ordered_object ?_ ?_)
  · have hkeys : octets "code" < octets "message" := by decide +kernel
    exact List.pairwise_pair.mpr hkeys
  · exact List.forall_mem_cons.mpr
      ⟨Json.ordered_number _, List.forall_mem_singleton.mpr (Json.ordered_text _)⟩

/-- Failures with the same body are of the same kind and have the same message. -/
theorem body_eq_iff {e e' : Failure} :
    e.json.body = e'.json.body ↔ e.kind = e'.kind ∧ e.message = e'.message := by
  rw [body_eq_envelope, body_eq_envelope, envelope_eq_iff]

end Failure

/-! ## Responses -/

/-- Responses that look the same to whoever gets them, whatever they carry for the layers. -/
structure Response.Matches (r r' : Response) : Prop where
  status : r.status = r'.status
  headers : r.headers = r'.headers
  body : r.body = r'.body

namespace Response.Matches

variable {r r' : Response} (h : r.Matches r')

include h

theorem stamped (env : Surroundings) (request : Request) :
    (Layer.stamped env request r).Matches (Layer.stamped env request r') where
  status := h.status
  headers := by rw [Layer.stamped, Layer.stamped, h.headers]
  body := h.body

theorem finish (manner : Manner) (method : Method) :
    (manner.finish method r).Matches (manner.finish method r') := by
  obtain ⟨status, headers, body, failure⟩ := r
  obtain ⟨status', headers', body', failure'⟩ := r'
  obtain ⟨rfl, rfl, rfl⟩ := h
  cases manner with
  | byMethod =>
    unfold Manner.finish
    dsimp only
    split <;> exact ⟨rfl, rfl, rfl⟩
  | byAny => exact ⟨rfl, rfl, rfl⟩
  | refused allowed => exact ⟨rfl, rfl, rfl⟩

end Response.Matches

namespace Layer

variable (settings : PipelineSettings) (e : Failure)

theorem settled_response :
    settled (allow settings e.response) =
      if e.kind = .internalOnly then replace (allow settings e.response) hidden
      else allow settings e.response := by
  have hfails : Http.isFailure e.kind.httpStatus = true := e.kind.isFailure_httpStatus
  have hstatus : (allow settings e.response).status = e.kind.httpStatus := rfl
  rw [settled, hstatus, if_pos hfails]
  rfl

/-- A failure is settled alike wherever it was raised. -/
theorem matches_settled_of_site (site : String) :
    (settled (allow settings { e with site := site }.response)).Matches
      (settled (allow settings e.response)) := by
  rw [settled_response, settled_response]
  dsimp only
  split
  · exact ⟨rfl, rfl, rfl⟩
  · exact ⟨rfl, rfl, rfl⟩

end Layer

/-- Two requests that are alike, to applications that settle responses alike. -/
structure Delivery.SameRequest {r r' : Response} (v : Delivery r) (w : Delivery r') : Prop where
  settings : v.app.settings = w.app.settings
  env : v.env = w.env
  request : v.request = w.request
  manner : v.dispatch.manner = w.dispatch.manner

/-- The client cannot tell where a failure was raised. -/
theorem Delivery.matches_of_site {e : Failure} {site : String}
    {v : Delivery ({ e with site := site } : Failure).response} {w : Delivery e.response}
    (h : v.SameRequest w) : v.client.Matches w.client := by
  rw [v.client_eq, w.client_eq, h.settings, h.env, h.request, h.manner]
  exact ((Layer.matches_settled_of_site w.app.settings e site).stamped _ _).finish _ _

namespace Failure

/-- **Bodies of failures are faithful.** A failure always has a body. It is a JSON text of two
members, first the code of the kind and then the message, and it is read back as these. Failures
have the same body only if they are of the same kind and have the same message. Wherever a failure
was raised, it is sent with the same status, media type and body, as a reply and as a response, and
a client of the layers gets the same response to the same request. -/
theorem body_faithful (e : Failure) :
    let told := Json.object [("code", .nat e.kind.code), ("message", .text e.message)]
    (∃ body, e.reply.content = .ok (body, "application/json") ∧ e.response.body = body ∧
      Json.parseWritten body = .ok told ∧ Json.parse body = .ok told) ∧
    (∀ e' : Failure, e.reply.content = e'.reply.content ↔
      e.kind = e'.kind ∧ e.message = e'.message) ∧
    (∀ site, let e' : Failure := { e with site := site }
      e'.reply = e.reply ∧ e'.response.Matches e.response ∧
      ∀ (v : Delivery e'.response) (w : Delivery e.response), v.SameRequest w →
        v.client.Matches w.client) := by
  intro told
  obtain ⟨hwritten, hread⟩ := e.parse_body
  refine ⟨⟨_, rfl, rfl, hwritten, hread⟩, fun e' => ?_, fun site => ⟨rfl, ⟨rfl, rfl, rfl⟩, ?_⟩⟩
  · show Except.ok (e.json.body, jsonType) = .ok (e'.json.body, jsonType) ↔ _
    rw [Except.ok.injEq, Prod.mk.injEq, and_iff_left rfl, body_eq_iff]
  · exact fun v w h => Delivery.matches_of_site h

/-- A message with a quote, a backslash, a control character and a letter beyond ASCII is read back,
and its client does not learn which line it came from. -/
theorem body_faithful_escaped :
    let e : Failure := ⟨.notFound, "target not found: \"\\\x01é", "grafana:140"⟩
    let moved : Failure := { e with site := "grafana:141" }
    let v := Delivery.sample moved.response
    let w := Delivery.sample e.response
    Json.parseWritten e.response.body =
        .ok (.object [("code", .nat 5), ("message", .text "target not found: \"\\\x01é")]) ∧
      v.SameRequest w ∧ v.client.Matches w.client := by
  intro e moved v w
  obtain ⟨⟨body, -, hbody, hread, -⟩, -, hsite⟩ := body_faithful e
  have hsame : v.SameRequest w := ⟨rfl, rfl, rfl, rfl⟩
  refine ⟨?_, hsame, (hsite "grafana:141").2.2 v w hsame⟩
  rw [hbody]
  exact hread

end Failure

end ProbeGateway
