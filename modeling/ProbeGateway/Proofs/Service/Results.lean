import ProbeGateway.Proofs.Backend.Written
import ProbeGateway.Proofs.Service.Expression

/-!
# Results pass through unharmed

The result of a query is answered with its expression as it came from the backend
(`result_unharmed`), if all numbers in it are integers.

1. A value can be a result if it nests at most 125 deep (`Query.exists_succeedsWith_iff`).
2. The client has the normal form of the result that was written (`Query.receive_of_succeedsWith`).
3. A normal form is read back from the answer (`parse_answer`).
-/

namespace ProbeGateway

namespace Query

/-- An answer reports success, with a result as it is written. -/
structure SucceedsWith (status : Nat) (body : Bytes) (result : Json) : Prop where
  status : 200 ≤ status ∧ status < 300
  envelope : ∃ e d, written? body = some e ∧ e.status = "success" ∧ e.data = some d ∧
    d.result = result

variable {status : Nat} {body : Bytes} {v : Json}

/-- The client takes the normal form of a result for the outcome. -/
theorem receive_of_succeedsWith (h : SucceedsWith status body v) :
    Json.Within 125 v ∧
      ∃ outcome, receive (.answered status body) = .ok outcome ∧ outcome.result = v.normal := by
  obtain ⟨e, d, hwritten, hsuccess, hdata, rfl⟩ := h.envelope
  have henvelope := written_envelope body
  rw [hwritten] at henvelope
  generalize hread : envelope? body = found at henvelope
  cases henvelope with
  | @some _ e' he =>
    have hd := he.data
    rw [hdata] at hd
    generalize hfound : e'.data = found at hd
    cases hd with
    | @some _ d' hd =>
      refine ⟨hd.result.2, ⟨d'.resultType, d'.result, e'.warnings⟩, ?_, hd.result.1⟩
      have hcondition : e'.status = "success" ∧ Http.isSuccess status = true :=
        ⟨he.status ▸ hsuccess, Http.isSuccess_iff.mpr h.status⟩
      rw [receive, hread, interpret]
      dsimp only
      rw [if_pos hcondition, hfound]
      rfl

/-- A backend that answers has an address that can be called. -/
theorem of_exchanged {base : String} {env : Surroundings}
    (h : exchanged base env = .answered status body) :
    env.metrics = .answered status body ∧
      ∃ url, Url.parse? (Url.under base queryPath) = some url := by
  unfold exchanged at h
  split at h
  · next hsome => exact ⟨h, Option.isSome_iff_exists.mp hsome⟩
  · cases h

/-- The compact text of an envelope has the result that was put into it. -/
theorem succeedsWith_answer (h : Json.Within 125 v) (hintegral : Json.Integral v)
    (hstatus : 200 ≤ status ∧ status < 300) (kind : String) :
    SucceedsWith status (answer kind v).body v :=
  ⟨hstatus, _, _, written?_answer h hintegral kind, rfl, rfl, rfl⟩

/-- **What can be a result** is told by how deep it nests. -/
theorem exists_succeedsWith_iff (hintegral : Json.Integral v) :
    (∃ status body, SucceedsWith status body v) ↔ Json.Within 125 v := by
  constructor
  · rintro ⟨status, body, h⟩
    exact (receive_of_succeedsWith h).1
  · intro h
    exact ⟨200, _, succeedsWith_answer h hintegral ⟨by decide, by decide⟩ ""⟩

end Query

namespace Api

variable {v : Json}

/-- The normal form of a result is read back from the answer, and the expression with it. -/
theorem parse_answer (h : Json.Within 125 v) (hintegral : Json.Integral v) (expr : String) :
    let answer := Json.object [("metric", .text expr), ("result", v.normal)]
    Json.parseWritten answer.body = .ok answer ∧ Json.parse answer.body = .ok answer := by
  have hnested : Json.Within 126 v.normal := h.normal.mono (by decide)
  refine Json.parse_body (.object ?_) (Json.integral_object ?_) (Json.ordered_object ?_ ?_)
  · exact List.forall_mem_cons.mpr ⟨.text 126 expr, List.forall_mem_singleton.mpr hnested⟩
  · exact List.forall_mem_cons.mpr
      ⟨Json.integral_text expr, List.forall_mem_singleton.mpr hintegral.normal⟩
  · have hkeys : octets "metric" < octets "result" := by decide +kernel
    exact List.pairwise_pair.mpr hkeys
  · exact List.forall_mem_cons.mpr
      ⟨Json.ordered_text expr, List.forall_mem_singleton.mpr (Json.ordered_normal v)⟩

/-- **Results pass through unharmed.** Let all numbers in a value be integers of 64 bits. The value
can be the result in an answer just if it nests at most 125 deep, and then it is the result in the
compact text of an envelope with it. If the backend answers with it, every request whose path spells
the expression gets a JSON text of two members: the expression, and a value that agrees with the
result, its keys written in increasing order of their octets. -/
theorem result_unharmed {v : Json} (hintegral : Json.Integral v) :
    ((∃ status body, Query.SucceedsWith status body v) ↔ Json.Within 125 v) ∧
      (Json.Within 125 v → ∀ status kind, 200 ≤ status ∧ status < 300 →
        Query.SucceedsWith status (Query.answer kind v).body v) ∧
      ∀ expr spelling : String, expr ≠ "" → Percent.Spells spelling.toList (octets expr) →
        ∀ request : Request, request.Fetches ("/api/v1/metrics/" ++ spelling) →
        ∀ (settings : ApiSettings) (env : Surroundings) (status : Nat) (body : Bytes),
          Query.exchanged settings.metricsUrl env = .answered status body →
          Query.SucceedsWith status body v →
          ∀ j : Journal,
            let response := (((app settings).serve env request).run j).1
            response.status = 200 ∧
            ∃ w, let answer := Json.object [("metric", .text expr), ("result", w)]
              response.body = answer.body ∧ Json.parse response.body = .ok answer ∧
                Json.parseWritten response.body = .ok answer ∧ Json.Agrees v w ∧
                Json.Ordered w := by
  refine ⟨Query.exists_succeedsWith_iff hintegral, fun h status kind hstatus =>
    Query.succeedsWith_answer h hintegral hstatus kind, ?_⟩
  intro expr spelling hexpr hspelling request hrequest settings env status body hanswered
    hsucceeds j
  obtain ⟨hwithin, outcome, houtcome, hresult⟩ := Query.receive_of_succeedsWith hsucceeds
  obtain ⟨hmetrics, url, hurl⟩ := Query.of_exchanged hanswered
  have hpath : request.path = noMetricTemplate ++ spelling := by
    have hquestion : ∀ c ∈ "".toList.head?, c = '?' := by
      rw [String.toList_empty]
      exact fun c hc => nomatch hc
    exact path_of_fetches (.tail _ (.head _)) hspelling hquestion
      (by rw [String.append_empty]; exact hrequest)
  obtain ⟨hstatus, hbody⟩ :=
    serve_metric hexpr hspelling hrequest.method hpath hurl (hmetrics ▸ houtcome) j
  have hanswer : metricJson expr outcome =
      .object [("metric", .text expr), ("result", v.normal)] := by
    rw [metricJson, hresult]
  obtain ⟨hwritten, hparsed⟩ := parse_answer hwithin hintegral expr
  dsimp only
  rw [hbody, hanswer]
  exact ⟨hstatus, v.normal, rfl, hparsed, hwritten, Json.agrees_normal hwithin,
    Json.ordered_normal v⟩

/-- A key that is repeated, the least and the greatest integer, and a character beyond the first
plane, beside a control character and a quote. -/
theorem result_unharmed_repeatedKey :
    let v := Json.array
      [.object [("b", .nat 1), ("a", .number (.integer (-2 ^ 63))),
          ("b", .number (.integer (2 ^ 64 - 1)))],
        .text "😀\x01\""]
    let body := octets ("\x7b\"status\":\"success\",\"data\":\x7b\"result\": [\x7b\"b\":1," ++
      "\"a\":-9223372036854775808, \"\\u0062\":18446744073709551615\x7d," ++
      "\"\\ud83d\\ude00\\u0001\\\"\"]\x7d\x7d")
    let settings : ApiSettings := ⟨"*", ⟨none, "", "", 10⟩, "http://prom:9090"⟩
    let env : Surroundings := { Surroundings.quiet with metrics := .answered 200 body }
    let request := Request.to .get "/api/v1/metrics/u%70"
    let response := (((app settings).serve env request).run {}).1
    Json.Integral v ∧ Percent.Spells "u%70".toList (octets "up") ∧
      request.Fetches ("/api/v1/metrics/" ++ "u%70") ∧
      Query.exchanged settings.metricsUrl env = .answered 200 body ∧
      Query.SucceedsWith 200 body v ∧ response.status = 200 ∧
      ∃ w, Json.parse response.body = .ok (.object [("metric", .text "up"), ("result", w)]) ∧
        Json.Agrees v w ∧ Json.Ordered w := by
  intro v body settings env request response
  have hintegral : Json.Integral v := by
    refine Json.integral_array (List.forall_mem_cons.mpr
      ⟨Json.integral_object ?_, List.forall_mem_singleton.mpr (Json.integral_text _)⟩)
    refine List.forall_mem_cons.mpr ⟨?_, List.forall_mem_cons.mpr ⟨?_,
      List.forall_mem_singleton.mpr ?_⟩⟩
    · exact Json.integral_integer (show (-2 ^ 63 : Int) ≤ 1 by decide) (by decide)
    · exact Json.integral_integer (Int.le_refl (-2 ^ 63)) (by decide)
    · exact Json.integral_integer (show (-2 ^ 63 : Int) ≤ 2 ^ 64 - 1 by decide) (by decide)
  have hspelling : Percent.Spells "u%70".toList (octets "up") := by
    have hoctets : octets "up" = [0x75, 0x70] := by decide +kernel
    have hchars : "u%70".toList = ['u', '%', '7', '0'] := by decide +kernel
    rw [hchars, hoctets]
    exact .plain (.inl rfl) (.escaped (.inl rfl) (.inl rfl) .nil)
  have hfetches : request.Fetches ("/api/v1/metrics/" ++ "u%70") := ⟨rfl, by decide +kernel⟩
  have hanswered : Query.exchanged settings.metricsUrl env = .answered 200 body := by
    decide +kernel
  have hsucceeds : Query.SucceedsWith 200 body v := by
    refine ⟨by decide, ⟨"success", some ⟨"", v⟩, none, none, []⟩, ⟨"", v⟩, ?_, rfl, rfl, rfl⟩
    decide +kernel
  obtain ⟨hstatus, w, -, hparsed, -, hagrees, hordered⟩ :=
    (result_unharmed hintegral).2.2 "up" "u%70" (by decide) hspelling request hfetches settings env
      200 body hanswered hsucceeds {}
  exact ⟨hintegral, hspelling, hfetches, hanswered, hsucceeds, hstatus, w, hparsed, hagrees,
    hordered⟩

end Api

end ProbeGateway
