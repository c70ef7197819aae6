import ProbeGateway.Proofs.Metrics.Ledger
import ProbeGateway.Proofs.Service.Footprint
import ProbeGateway.Proofs.Service.Lookup

/-!
# What a request leaves at another time

Two requests that are alike meet backends that do the same (`Surroundings.SameBackends`), and may
meet them at other times.

1. Whether and how a question fails, the attempt that it comes to and the query of health that it is
   counted as are the same at any time (`Question.verdict_congr`, `Question.attempt?_congr`,
   `Question.healthQuery?_congr`).
2. So are the calls, the status and, apart from times, the marks of a request (`Taken.calls_congr`,
   `Taken.status_congr`, `Taken.marks_congr`).
3. At the same time by the clock the response is the same but for the trace id
   (`Taken.response_sameBut`), and the same altogether with the same trace id
   (`Taken.response_congr`).
-/

namespace ProbeGateway

/-- The backends do the same to two requests. -/
structure Surroundings.SameBackends (env env' : Surroundings) : Prop where
  rules : env.rules = env'.rules
  metrics : env.metrics = env'.metrics
  rulesRedirects : env.rulesRedirects = env'.rulesRedirects
  metricsRedirects : env.metricsRedirects = env'.metricsRedirects

/-- Whether and how something failed. -/
def verdict {α : Type} (result : Except Failure α) : Except Failure Unit := result.map fun _ => ()

theorem verdict_map {α β : Type} (f : α → β) (result : Except Failure α) :
    verdict (result.map f) = verdict result := by
  cases result with
  | ok a => rfl
  | error e => rfl

namespace Attempt

variable (attempt : Option Attempt) (seconds : Binary64)

theorem calls_retimed :
    calls (attempt.map fun a => { a with seconds := seconds }) = calls attempt := by
  cases attempt with
  | none => rfl
  | some a => rfl

theorem marks_retimed :
    (marks (attempt.map fun a => { a with seconds := seconds })).map Mark.timeless =
      (marks attempt).map Mark.timeless := by
  cases attempt with
  | none => rfl
  | some a => rfl

end Attempt

/-! ## Responses that differ in one header -/

/-- Two responses are the same but for a header. -/
structure Response.SameBut (header : String) (r r' : Response) : Prop where
  status : r.status = r'.status
  body : r.body = r'.body
  values : ∀ name, name ≠ header → r.headers.values name = r'.headers.values name

namespace Response.SameBut

variable {header : String} {r r' : Response}

theorem refl (r : Response) : SameBut header r r := ⟨rfl, rfl, fun _ _ => rfl⟩

/-- A header that is added unless it is there is added to both. -/
theorem setDefault (h : SameBut header r r') (name value : String) (hne : name ≠ header) :
    SameBut header { r with headers := r.headers.setDefault name value }
      { r' with headers := r'.headers.setDefault name value } where
  status := h.status
  body := h.body
  values other hother := by
    have hhas : r.headers.has name = r'.headers.has name := by
      rw [Bool.eq_iff_iff, Headers.has_iff_values_ne_nil, Headers.has_iff_values_ne_nil,
        h.values name hne]
    unfold Headers.setDefault
    dsimp only
    rw [hhas]
    split
    · exact h.values other hother
    · rw [Headers.append, Headers.append, Headers.values_append, Headers.values_append,
        h.values other hother]

theorem withLength (h : SameBut header r r') (hne : contentLength ≠ header) :
    SameBut header (App.withLength r) (App.withLength r') where
  status := h.status
  body := h.body
  values := by
    unfold App.withLength
    rw [← h.body]
    exact (h.setDefault contentLength (decimal r.body.length) hne).values

theorem withoutBody (h : SameBut header r r') :
    SameBut header (App.withoutBody r) (App.withoutBody r') := ⟨h.status, rfl, h.values⟩

theorem finish (h : SameBut header r r') (hl : contentLength ≠ header) (ha : "allow" ≠ header)
    (manner : Manner) (method : Method) :
    SameBut header (manner.finish method r) (manner.finish method r') := by
  cases manner with
  | byMethod =>
    unfold Manner.finish
    dsimp only
    split
    · exact (h.withLength hl).withoutBody
    · exact h.withLength hl
  | byAny => exact h.withLength hl
  | refused allowed => exact (h.setDefault "allow" allowed ha).withLength hl

end Response.SameBut

theorem Response.sameBut_stamped (env env' : Surroundings) (request : Request) (r : Response) :
    SameBut traceHeader (Layer.stamped env request r) (Layer.stamped env' request r) where
  status := rfl
  body := rfl
  values name hne := by
    unfold Layer.stamped
    rw [Headers.values_setDefault_of_ne _ _ hne, Headers.values_setDefault_of_ne _ _ hne]

/-- How a failure is settled does not depend on what the response shows. -/
theorem Layer.status_settled_congr (r r' : Response) (hstatus : r.status = r'.status)
    (hfailure : r.failure = r'.failure) : (settled r).status = (settled r').status := by
  have hfailureOf : failureOf r = failureOf r' := by
    unfold failureOf
    rw [hstatus, hfailure]
  have hnormalised : (normalised r).status = (normalised r').status := by
    unfold normalised
    rw [hfailureOf, hfailure]
    split
    · rfl
    · split
      · exact hstatus
      · rfl
  unfold settled
  rw [hstatus]
  split
  · exact hnormalised
  · exact hstatus

variable {env env' : Surroundings}

/-! ## What the backends tell -/

namespace RulesStore

theorem delivered_congr (h : env.SameBackends env') (backend : RulesBackend) :
    delivered backend env = delivered backend env' := by
  unfold delivered exchanged
  rw [h.rules]

theorem sent?_congr (h : env.SameBackends env') (backend : RulesBackend) (address : String) :
    sent? backend env address = sent? backend env' address := by
  unfold sent?
  rw [h.rules, h.rulesRedirects]

/-- Whether a target is found does not depend on the time. -/
theorem verdict_checkOf (now now' : Instant) (target : String) (payload : Json) :
    verdict (checkOf now target payload) = verdict (checkOf now' target payload) := by
  unfold checkOf
  cases hfind : (checksOf now payload).find? (·.target = target) with
  | none =>
    have hnone : ∀ c ∈ checksOf now payload, c.target ≠ target := by
      simpa using List.find?_eq_none.mp hfind
    rw [find?_checksOf_eq_none hnone now']
  | some c =>
    obtain ⟨c', hfind', -⟩ := find?_checksOf_retimed hfind now'
    rw [hfind']
    rfl

end RulesStore

namespace Query

theorem delivered_congr (h : env.SameBackends env') (base : String) :
    delivered base env = delivered base env' := by
  unfold delivered exchanged
  rw [h.metrics]

theorem sent?_congr (h : env.SameBackends env') (base expr : String) :
    sent? base env expr = sent? base env' expr := by
  unfold sent?
  rw [h.metrics, h.metricsRedirects]

end Query

namespace Api

variable (settings : ApiSettings)

/-! ## What a question leaves at another time -/

namespace Question

/-- The answer depends on the backends and on the time of the checks. -/
theorem result_congr (h : env.SameBackends env') (hnow : env.now = env'.now) (q : Question) :
    q.result settings env = q.result settings env' := by
  cases q with
  | metric expr => simp only [result, Query.delivered_congr h]
  | _ => simp only [result, RulesStore.delivered_congr h, hnow]

/-- Whether and how a question fails does not depend on the time. -/
theorem verdict_congr (h : env.SameBackends env') (q : Question) :
    verdict (q.result settings env) = verdict (q.result settings env') := by
  cases q with
  | checks => simp only [result, verdict_map, RulesStore.delivered_congr h]
  | check target =>
    simp only [result, RulesStore.delivered_congr h]
    split
    · rfl
    · rw [verdict_map, verdict_map]
      cases RulesStore.delivered settings.rules env' with
      | error e => rfl
      | ok payload => exact RulesStore.verdict_checkOf _ _ _ _
  | alerts => simp only [result, RulesStore.delivered_congr h]
  | metric expr => simp only [result, Query.delivered_congr h]

/-- The attempt is the same, apart from the time that it takes. -/
theorem attempt?_congr (h : env.SameBackends env') (q : Question) :
    (q.attempt? settings env).map (fun a => { a with seconds := env'.elapsed }) =
      q.attempt? settings env' := by
  unfold attempt?
  split
  · cases q with
    | metric expr =>
      simp only [Query.attempt, Option.map_some, Query.sent?_congr h, Query.delivered_congr h]
    | _ =>
      simp only [RulesStore.attempt?, Option.map_map, Function.comp_def, RulesStore.sent?_congr h,
        RulesStore.delivered_congr h]
  · rfl

theorem healthQuery?_congr (h : env.SameBackends env') (q : Question) :
    q.healthQuery? settings env = q.healthQuery? settings env' := by
  have houtcome : Metrics.outcome (q.result settings env) =
      Metrics.outcome (q.result settings env') := by
    rw [← Metrics.outcome_map (fun _ => ()), ← Metrics.outcome_map (fun _ => ()) (q.result _ env')]
    exact congrArg Metrics.outcome (verdict_congr settings h q)
  unfold healthQuery?
  rw [houtcome]

end Question

/-! ## What a request leaves at another time -/

/-- How a response is recorded does not depend on the value that it shows. -/
theorem ofResult_congr {result result' : Except Failure Json} (h : verdict result = verdict result') :
    (Response.ofResult result).status = (Response.ofResult result').status ∧
      (Response.ofResult result).failure = (Response.ofResult result').failure := by
  cases result with
  | ok v =>
    cases result' with
    | ok v' => exact ⟨rfl, rfl⟩
    | error e' => cases h
  | error e =>
    cases result' with
    | ok v' => cases h
    | error e' =>
      obtain rfl := Except.error.inj h
      exact ⟨rfl, rfl⟩

namespace Taken

theorem attempt?_congr (h : env.SameBackends env') (t : Taken) :
    (t.attempt? settings env).map (fun a => { a with seconds := env'.elapsed }) =
      t.attempt? settings env' := by
  unfold attempt?
  rw [Option.map_bind]
  exact Option.bind_congr fun q _ => q.attempt?_congr settings h

theorem healthQuery?_congr (h : env.SameBackends env') (t : Taken) :
    t.healthQuery? settings env = t.healthQuery? settings env' := by
  unfold healthQuery?
  exact Option.bind_congr fun q _ => q.healthQuery?_congr settings h

theorem calls_congr (h : env.SameBackends env') (t : Taken) :
    t.calls settings env = t.calls settings env' := by
  unfold calls
  rw [← attempt?_congr settings h t, Attempt.calls_retimed]

theorem recording?_congr (h : env.SameBackends env') (t : Taken) :
    (t.recording? settings env).map (fun r => (Mark.response r).timeless) =
      (t.recording? settings env').map (fun r => (Mark.response r).timeless) := by
  cases t with
  | asked incoming q =>
    obtain ⟨hstatus, hfailure⟩ := ofResult_congr (q.verdict_congr settings h)
    have hallow (result : Except Failure Json) :
        (Layer.allow ⟨settings.corsOrigin⟩ (.ofResult result)).status =
            (Response.ofResult result).status ∧
          (Layer.allow ⟨settings.corsOrigin⟩ (.ofResult result)).failure =
            (Response.ofResult result).failure := ⟨rfl, rfl⟩
    simp only [recording?, innermost?, Option.map_some, Layer.measured, Layer.measuredKind,
      Mark.timeless, (hallow _).1, (hallow _).2, hstatus, hfailure]
  | _ => rfl

theorem marks_congr (h : env.SameBackends env') (t : Taken) :
    (t.marks settings env).map Mark.timeless = (t.marks settings env').map Mark.timeless := by
  have hattempt : (Attempt.marks (t.attempt? settings env)).map Mark.timeless =
      (Attempt.marks (t.attempt? settings env')).map Mark.timeless := by
    rw [← attempt?_congr settings h t, Attempt.marks_retimed]
  have hrecording := recording?_congr settings h t
  unfold marks
  rw [List.map_append, List.map_append, List.map_append, List.map_append, hattempt,
    healthQuery?_congr settings h, ← Option.toList_map, ← Option.toList_map, Option.map_map,
    Option.map_map]
  exact congrArg (_ ++ Option.toList ·) hrecording

theorem innermost?_congr (h : env.SameBackends env') (hnow : env.now = env'.now) (t : Taken) :
    t.innermost? settings env = t.innermost? settings env' := by
  cases t with
  | asked incoming q => simp only [innermost?, q.result_congr settings h hnow]
  | _ => rfl

/-- The response depends on the backends, the time of the checks and the trace id. -/
theorem response_congr (h : env.SameBackends env') (hnow : env.now = env'.now)
    {request : Request} (hid : Layer.traceIdOf env request = Layer.traceIdOf env' request)
    (t : Taken) : t.response settings env request = t.response settings env' request := by
  have hstamped (r : Response) : Layer.stamped env request r = Layer.stamped env' request r := by
    unfold Layer.stamped
    rw [hid]
  unfold response
  simp only [innermost?_congr settings h hnow, hstamped]

/-- The trace id shows in its header only. -/
theorem response_sameBut (h : env.SameBackends env') (hnow : env.now = env'.now)
    (request : Request) (t : Taken) :
    Response.SameBut traceHeader (t.response settings env request)
      (t.response settings env' request) := by
  unfold response
  rw [innermost?_congr settings h hnow]
  cases t.innermost? settings env' with
  | none => exact .refl _
  | some found => exact (Response.sameBut_stamped _ _ _ _).finish (by decide) (by decide) _ _

/-- The status does not even depend on the time. -/
theorem status_congr (h : env.SameBackends env') (request : Request) (t : Taken) :
    (t.response settings env request).status = (t.response settings env' request).status := by
  cases t with
  | asked incoming q =>
    obtain ⟨hstatus, hfailure⟩ := ofResult_congr (q.verdict_congr settings h)
    have hsettled := Layer.status_settled_congr
      (Layer.allow ⟨settings.corsOrigin⟩ (.ofResult (q.result settings env)))
      (Layer.allow ⟨settings.corsOrigin⟩ (.ofResult (q.result settings env'))) hstatus hfailure
    unfold response innermost?
    dsimp only
    rw [Manner.finish_status, Manner.finish_status]
    exact hsettled
  | preflight incoming | refused incoming =>
    unfold response innermost?
    dsimp only
    rw [Manner.finish_status, Manner.finish_status]
    rfl
  | _ => rfl

end Taken

end Api

end ProbeGateway
