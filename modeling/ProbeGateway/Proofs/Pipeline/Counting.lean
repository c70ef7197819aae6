import ProbeGateway.Proofs.Pipeline.Story

/-!
# Two notions of failure

The layer that measures counts a response as failed from status 400 on. The layer that settles
failures takes those for failures whose status is from 400 to 599: it logs them, and leaves the
client with a code and a message.

1. What is counted hangs on the status alone (`countsFailure_iff`).
2. A failure is settled to a code and a message unless the handler said it by itself in other words
   (`tellsFailure_settled_iff`, `speaks_innermost_iff`).
3. So the two layers agree on a response just if its status is below 600
   (`counted_as_treated_iff`).
-/

namespace ProbeGateway

/-- The body of a failure that a client may see. -/
def TellsFailure (body : Bytes) : Prop :=
  ∃ kind message, kind ≠ .internalOnly ∧ body = envelope kind message

/-- A response that carries a failure which may be seen has the body of one. -/
def Response.Speaks (r : Response) : Prop :=
  ∀ e, r.failure = some e → e.kind ≠ .internalOnly → TellsFailure r.body

/-- One more failure is counted, with and without labels. -/
def CountsFailure (before after : Metrics) : Prop :=
  after.errors = before.errors + 1 ∧ after.httpErrors.total = before.httpErrors.total + 1

/-- A failure is logged before the end of the request, and the client is left with its body, unless
it asked for headers only. -/
def TreatsFailure (request : Request) (before : Journal) (served : Response × Journal) : Prop :=
  (∃ e, served.2.events = before.events ++
    [.requestFailed e,
      .requestCompleted request.method.name request.path served.1.status]) ∧
  (request.method ≠ .head → TellsFailure served.1.body)

/-! ## What is counted -/

theorem Recording.countsFailure_iff (recording : Recording) (m : Metrics) :
    CountsFailure m (recording.complete m) ↔ 400 ≤ recording.status := by
  unfold CountsFailure
  rw [complete_record]
  by_cases hs : 400 ≤ recording.status
  · have hfailed : recording.isFailed = true := decide_eq_true hs
    refine iff_of_true ⟨?_, ?_⟩ hs
    · exact if_pos hfailed
    · dsimp only
      rw [if_pos hfailed, Tally.total_add]
  · have hfailed : ¬ recording.isFailed = true := fun h => hs (of_decide_eq_true h)
    refine iff_of_false (fun h => ?_) hs
    have herrors : m.errors = m.errors + 1 := (if_neg hfailed).symm.trans h.1
    omega

/-! ## What is settled -/

namespace Layer

variable {r : Response}

/-- A failed response is settled to the body of a failure, unless it carries one and has another
body. -/
theorem tellsFailure_settled_iff (hf : Http.isFailure r.status = true) :
    TellsFailure (settled r).body ↔ r.Speaks := by
  have hreplace {e : Failure} (hk : e.kind ≠ .internalOnly) : TellsFailure (replace r e).body :=
    ⟨e.kind, e.message, hk, (tells_replace r e).body⟩
  unfold settled normalised
  rw [if_pos hf]
  cases hr : r.failure with
  | none =>
    have hkind : (failureOf r).kind ≠ .internalOnly := by
      rw [failureOf, hr]
      exact ErrorKind.ofStatus_ne_internalOnly _
    rw [if_neg hkind]
    refine iff_of_true (hreplace hkind) fun e he => ?_
    rw [hr] at he
    cases he
  | some e =>
    have hsome {e' : Failure} (he' : r.failure = some e') : e' = e :=
      Option.some.inj (he'.symm.trans hr)
    rw [failureOf_of_failure_eq_some hr]
    by_cases hkind : e.kind = .internalOnly
    · rw [if_pos hkind]
      refine iff_of_true (hreplace (by decide)) fun e' he' hvisible => ?_
      rw [hsome he'] at hvisible
      exact absurd hkind hvisible
    · rw [if_neg hkind]
      constructor
      · exact fun htold e' _ _ => htold
      · exact fun hspeaks => hspeaks e hr hkind

end Layer

namespace Dispatch

variable {d : Dispatch} {settings : PipelineSettings} {env : Surroundings} {j : Journal}

/-- Only an answer of the handler can carry a failure with another body. -/
theorem speaks_innermost_iff :
    (d.innermost settings env j).1.Speaks ↔
      (d.incoming.request.method ≠ .options →
        ∀ r, (d.outcome env j).1 = .answered r → r.Speaks) := by
  by_cases hm : d.incoming.request.method = .options
  · rw [innermost_options settings env hm]
    exact iff_of_true nofun fun h => absurd hm h
  · cases ho : (d.outcome env j).1 with
    | answered r =>
      rw [innermost_answered settings env hm ho]
      constructor
      · rintro hspeaks - r' ⟨⟩
        exact hspeaks
      · exact fun hspeaks => hspeaks hm r rfl
    | panicked payload =>
      rw [innermost_panicked settings env hm ho]
      refine iff_of_true ?_ nofun
      rintro e ⟨⟩ hvisible
      exact absurd rfl hvisible

end Dispatch

/-! ## The two layers -/

namespace App

variable {app : App} {env : Surroundings} {request : Request} {d : Dispatch} {j : Journal}

theorem countsFailure_serve_iff (hd : app.dispatch? env request = some d) (hg : d.group = .main) :
    CountsFailure (d.innermost app.settings env j).2.metrics
        ((app.serve env request).run j).2.metrics ↔
      400 ≤ d.produced env j := by
  rw [serve_run_main hd hg]
  exact (Recording.countsFailure_iff _ _).trans (by rw [← Dispatch.status_innermost]; rfl)

/-- A failure is logged just if the status is that of one. -/
theorem logged_iff (hd : app.dispatch? env request = some d) (hg : d.group = .main) :
    (∃ e, ((app.serve env request).run j).2.events = (d.innermost app.settings env j).2.events ++
      [.requestFailed e, .requestCompleted request.method.name request.path
        ((app.serve env request).run j).1.status]) ↔
      Http.isFailure (d.produced env j) = true := by
  rw [events_serve_innermost hd hg, Dispatch.complaint_innermost, List.append_assoc]
  cases hf : Http.isFailure (d.produced env j) with
  | true => exact iff_of_true ⟨_, rfl⟩ rfl
  | false =>
    refine iff_of_false ?_ Bool.false_ne_true
    rintro ⟨e, he⟩
    cases List.append_cancel_left he

theorem treatsFailure_serve_iff (hd : app.dispatch? env request = some d) (hg : d.group = .main) :
    TreatsFailure request (d.innermost app.settings env j).2 ((app.serve env request).run j) ↔
      Http.isFailure (d.produced env j) = true ∧
        (request.method ≠ .options → request.method ≠ .head →
          ∀ r, (d.outcome env j).1 = .answered r → r.Speaks) := by
  unfold TreatsFailure
  rw [logged_iff hd hg]
  refine and_congr_right fun hf => ?_
  have hinner : Http.isFailure (d.innermost app.settings env j).1.status = true := by
    rw [Dispatch.status_innermost, hf]
  have htold (hm : request.method ≠ .head) :
      TellsFailure ((app.serve env request).run j).1.body ↔
        (request.method ≠ .options → ∀ r, (d.outcome env j).1 = .answered r → r.Speaks) := by
    rw [body_serve_main hd hg hm, Layer.tellsFailure_settled_iff hinner,
      Dispatch.speaks_innermost_iff, dispatch?_request hd]
  constructor
  · exact fun h hopt hm => (htold hm).mp (h hm) hopt
  · exact fun h hm => (htold hm).mpr fun hopt => h hopt hm

/-- What nobody takes for a failure reaches the client as it is. -/
theorem untreated (hd : app.dispatch? env request = some d) (hg : d.group = .main)
    (hf : Http.isFailure (d.produced env j) = false) :
    let served := (app.serve env request).run j
    served.1.status = d.produced env j ∧
    served.2.events = (d.innermost app.settings env j).2.events ++
      [.requestCompleted request.method.name request.path (d.produced env j)] ∧
    (request.method ≠ .options → request.method ≠ .head →
      ∀ r, (d.outcome env j).1 = .answered r → served.1.body = r.body) := by
  intro served
  have hinner : Http.isFailure (d.innermost app.settings env j).1.status = false := by
    rw [Dispatch.status_innermost, hf]
  have hstatus : served.1.status = d.produced env j := by
    rw [status_serve_main hd hg, Layer.settled_of_not_isFailure hinner, Dispatch.status_innermost]
  refine ⟨hstatus, ?_, fun hopt hm r hr => ?_⟩
  · rw [events_serve_innermost hd hg, hstatus, Dispatch.complaint_innermost, hf]
    exact congrArg (· ++ _) (List.append_nil _)
  · rw [← dispatch?_request hd] at hopt
    rw [body_serve_main hd hg hm, Layer.settled_of_not_isFailure hinner,
      Dispatch.innermost_answered _ _ hopt hr]
    rfl

/-- **Two notions of failure.** A request of the main group is counted as failed just if the status
that its handler produced is at least 400. It is treated as failed, logged and told to the client as
a code and a message, just if that status is also below 600, handlers aside that carry a failure and
give another body. So the two agree just below 600; from there on a response is counted as failed,
and reaches the client as it is without a word in the log. -/
theorem counted_as_treated_iff (hd : app.dispatch? env request = some d) (hg : d.group = .main) :
    let served := (app.serve env request).run j
    let inside := (d.innermost app.settings env j).2
    let status := d.produced env j
    let speaks := request.method ≠ .options → request.method ≠ .head →
      ∀ r, (d.outcome env j).1 = .answered r → r.Speaks
    let counts := CountsFailure inside.metrics served.2.metrics
    let treats := TreatsFailure request inside served
    (counts ↔ 400 ≤ status) ∧
    (treats ↔ (400 ≤ status ∧ status < 600) ∧ speaks) ∧
    (speaks → ((counts ↔ treats) ↔ status < 600)) ∧
    (600 ≤ status → counts ∧ ¬ treats ∧ served.1.status = status ∧
      served.2.events = inside.events ++
        [.requestCompleted request.method.name request.path status] ∧
      (request.method ≠ .options → request.method ≠ .head →
        ∀ r, (d.outcome env j).1 = .answered r → served.1.body = r.body)) := by
  intro served inside status speaks counts treats
  have hcounts : counts ↔ 400 ≤ status := countsFailure_serve_iff hd hg
  have htreats : treats ↔ (400 ≤ status ∧ status < 600) ∧ speaks := by
    rw [← Http.isFailure_iff]
    exact treatsFailure_serve_iff hd hg
  refine ⟨hcounts, htreats, fun hspeaks => ?_, fun hhigh => ?_⟩
  · rw [hcounts, htreats]
    constructor
    · intro hagree
      by_cases hlow : 400 ≤ status
      · exact (hagree.mp hlow).1.2
      · omega
    · exact fun hbelow => ⟨fun hlow => ⟨⟨hlow, hbelow⟩, hspeaks⟩, fun h => h.1.1⟩
  · have hf : Http.isFailure status = false := by
      rw [Bool.eq_false_iff, ne_eq, Http.isFailure_iff]
      omega
    refine ⟨hcounts.mpr (by omega), fun h => ?_, untreated hd hg hf⟩
    have := (htreats.mp h).1.2
    omega

/-- A response with status 600 is counted as failed, and nothing else comes of it. -/
theorem counted_as_treated_iff_odd :
    let odd : Response := ⟨600, [], octets "odd", none⟩
    let app : App := ⟨⟨"*"⟩, [⟨.main, "/odd", some .get, fun _ => .ending (.answered odd)⟩]⟩
    let served := (app.serve .quiet (.to .get "/odd")).run {}
    CountsFailure {} served.2.metrics ∧
      served.2.events = [.requestSpan "GET" "/odd" "7f0d1c52", .requestStarted "GET" "/odd" "-",
        .requestCompleted "GET" "/odd" 600] ∧
      served.1.status = 600 ∧ served.1.body = octets "odd" := by
  intro odd app served
  have hd : app.dispatch? .quiet (.to .get "/odd") = some _ :=
    dispatch?_of_choose (show Template.choose _ _ = some ("/odd", []) by decide +kernel)
  obtain ⟨-, -, -, hhigh⟩ := counted_as_treated_iff (j := {}) hd (by decide +kernel)
  obtain ⟨hcounts, -, hstatus, hevents, hbody⟩ := hhigh (by decide +kernel)
  exact ⟨hcounts, hevents.trans (by decide +kernel), hstatus,
    hbody (by decide +kernel) (by decide +kernel) odd rfl⟩

end App

end ProbeGateway
