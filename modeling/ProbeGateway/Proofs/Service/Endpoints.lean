import ProbeGateway.Proofs.Pipeline.Labels
import ProbeGateway.Proofs.Pipeline.TraceId
import ProbeGateway.Proofs.Service.Footprint

/-!
# What each path is for

The path of a request alone decides what it is for. Every path is that of a probe, names a question
(`Names`), or is for nothing, whatever else it looks like.

1. A probe answers without layers and leaves nothing behind (`probes_of_mem`).
2. A path that names a question leads to one template, and its requests are answered with the answer
   to the question, or refused, within the layers (`answers_of_names`). A failure to answer is told
   to the client (`tells_serve_of_names`).
3. All other paths are unknown, and leave nothing behind (`unknown_of_not_names`).
4. Whatever the paths of a run, the metrics hold the templates only (`pathsIn_app`).
-/

namespace ProbeGateway.Api

/-! ## Paths that name questions -/

/-- A path names a question. What is behind the beginning of an open template is percent-decoded,
and counts as nothing if it is not UTF-8. -/
inductive Names : (path : String) → Question → Prop
  | checks : Names "/api/v1/health" .checks
  | alerts : Names "/api/v1/alerts" .alerts
  | check (rest : String) :
      Names ("/api/v1/health/" ++ rest) (.check ((Percent.segmentText? rest).getD ""))
  | metric (rest : String) :
      Names ("/api/v1/metrics/" ++ rest) (.metric ((Percent.segmentText? rest).getD ""))

variable {path : String} {q q' : Question}

theorem fetches_iff {method : Method} : method.fetches = true ↔ method = .get ∨ method = .head := by
  simp [Method.fetches]

/-- A path that names a question leads to a template of the question. -/
theorem Names.leads (h : Names path q) :
    ∃ t ∈ mainTemplates, ∃ parts, Leads path t parts ∧
      ∀ request, questionAt ⟨request, t, parts, none⟩ = q := by
  cases h with
  | checks =>
    exact ⟨healthTemplate, by decide +kernel, [], .literal (by decide +kernel), fun _ => rfl⟩
  | alerts =>
    exact ⟨alertsTemplate, by decide +kernel, [], .literal (by decide +kernel), fun _ => rfl⟩
  | check rest =>
    have hopen : (noTargetTemplate, targetTemplate) ∈ openTemplates := .head _
    obtain ⟨t, ht, parts, hleads, htext⟩ := leads_behind hopen rest
    refine ⟨t, mem_mainTemplates_of_open _ hopen t ht, parts, hleads, fun _ => ?_⟩
    simp only [List.mem_cons, List.not_mem_nil, or_false] at ht
    rcases ht with rfl | rfl
    all_goals exact congrArg Question.check htext
  | metric rest =>
    have hopen : (noMetricTemplate, metricTemplate) ∈ openTemplates := .tail _ (.head _)
    obtain ⟨t, ht, parts, hleads, htext⟩ := leads_behind hopen rest
    refine ⟨t, mem_mainTemplates_of_open _ hopen t ht, parts, hleads, fun _ => ?_⟩
    simp only [List.mem_cons, List.not_mem_nil, or_false] at ht
    rcases ht with rfl | rfl
    all_goals exact congrArg Question.metric htext

/-- Without a remainder that can be read a path names a question that lacks what it is about. -/
theorem names_of_unreadable {rest : String}
    (h : rest = "" ∨ Percent.segmentText? rest = none) :
    Names ("/api/v1/health/" ++ rest) (.check "") ∧
      Names ("/api/v1/metrics/" ++ rest) (.metric "") := by
  have hnothing : (Percent.segmentText? rest).getD "" = "" := by
    rcases h with rfl | hnone
    · decide +kernel
    · rw [hnone]
      rfl
  have hcheck := Names.check rest
  have hmetric := Names.metric rest
  rw [hnothing] at hcheck hmetric
  exact ⟨hcheck, hmetric⟩

/-- A path names one question at most. -/
theorem Names.unique (h : Names path q) (h' : Names path q') : q = q' := by
  obtain ⟨t, -, parts, hleads, hq⟩ := h.leads
  obtain ⟨t', -, parts', hleads', hq'⟩ := h'.leads
  have hfound := (choose_eq_some_iff.mpr hleads).symm.trans (choose_eq_some_iff.mpr hleads')
  obtain ⟨rfl, rfl⟩ := Prod.mk.inj (Option.some.inj hfound)
  rw [← hq (.to .get path), hq' (.to .get path)]

theorem exists_names_of_isMainPath (h : IsMainPath path) : ∃ q, Names path q := by
  rcases h with rfl | rfl | ⟨rest, rfl⟩ | ⟨rest, rfl⟩
  · exact ⟨_, .checks⟩
  · exact ⟨_, .alerts⟩
  · exact ⟨_, .check rest⟩
  · exact ⟨_, .metric rest⟩

/-! ## Probes -/

variable (settings : ApiSettings)

/-- Requests with a path are answered without layers and leave nothing behind, whatever their method
and whatever the backends do. -/
def Probes (path : String) : Prop :=
  ∀ (env : Surroundings) (request : Request) (j : Journal), request.path = path →
    let served := ((app settings).serve env request).run j
    served.2 = j ∧
    (∀ header ∈ served.1.headers, header.1 ∈ ["content-type", "content-length", "allow"]) ∧
    (request.method = .get →
      served.1.status = 200 ∧ served.1.body = octets "\x7b\"status\":\"ok\"\x7d")

theorem serve_probe (env : Surroundings) {request : Request} (h : request.path ∈ probeTemplates)
    (j : Journal) :
    ((app settings).serve env request).run j =
      (if request.method.fetches then Manner.byMethod.finish request.method (.ofJson alive)
        else (Manner.refused "GET,HEAD").finish request.method (.empty 405), j) := by
  have hleads : Leads request.path request.path [] := .literal (List.mem_append_right _ h)
  have hd : (app settings).dispatch? env request = some _ :=
    App.dispatch?_of_choose (choose_eq_some_iff.mpr hleads)
  have hroutes := routesAt_probe settings h
  cases hm : request.method.fetches with
  | true =>
    rw [App.dispatchAt_fetches hroutes rfl hm] at hd
    exact App.serve_run_bare hd rfl j
  | false =>
    rw [App.dispatchAt_refuses hroutes rfl hm] at hd
    exact App.serve_run_bare hd rfl j

theorem probes_of_mem (h : path ∈ probeTemplates) : Probes settings path := by
  intro env request j hpath served
  have hserved : served = _ := serve_probe settings env (hpath ▸ h) j
  have halive : ∀ header ∈ (App.withLength (.ofJson alive)).headers,
      header.1 ∈ ["content-type", "content-length", "allow"] := by decide +kernel
  have hrefused : ∀ header ∈ (App.withLength (App.withAllow "GET,HEAD" (.empty 405))).headers,
      header.1 ∈ ["content-type", "content-length", "allow"] := by decide +kernel
  have hbody : (Manner.byMethod.finish .get (.ofJson alive)).body =
      octets "\x7b\"status\":\"ok\"\x7d" := by decide +kernel
  rw [hserved]
  refine ⟨rfl, ?_, fun hget => ?_⟩
  · split
    · unfold Manner.finish
      dsimp only
      split
      · exact halive
      · exact halive
    · exact hrefused
  · rw [hget]
    exact ⟨rfl, hbody⟩

/-! ## Questions -/

/-- The handler that answers a question, whatever the request. -/
def Question.handler (env : Surroundings) (q : Question) : Handler :=
  .ofResult fun _ => q.answer settings env

/-- Requests with a path go to one template. Those that fetch are answered by the handler of a
question within the layers, and the others are refused there. -/
def Answers (path : String) (q : Question) : Prop :=
  ∃ t ∈ mainTemplates, ∃ parts, ∀ (env : Surroundings) (request : Request) (j : Journal),
    request.path = path →
    let served := ((app settings).serve env request).run j
    let within (handler : Handler) :=
      (handler.wrapped ⟨settings.corsOrigin⟩ env ⟨request, t, parts, none⟩).run j
    let answered := within (q.handler settings env)
    let refused := within App.notAllowed
    (request.method = .get ∨ request.method = .head →
      served = (Manner.byMethod.finish request.method answered.1, answered.2)) ∧
    (¬ (request.method = .get ∨ request.method = .head) →
      served = ((Manner.refused "GET,HEAD").finish request.method refused.1, refused.2))

section

variable {settings} {env : Surroundings} {request : Request} {t : String} {parts : List String}

/-- A fetching request to a main template is dispatched to what answers its question. The layers
change neither the template nor the parts, and so not the question. -/
theorem dispatch?_fetches (hleads : Leads request.path t parts) (ht : t ∈ mainTemplates)
    (hm : request.method.fetches = true) :
    let incoming : Incoming := ⟨request, t, parts, none⟩
    ∃ handler, (app settings).dispatch? env request =
        some ⟨.main, handler, .byMethod, incoming⟩ ∧
      handler (Layer.traced env incoming) =
        (questionAt incoming).handler settings env (Layer.traced env incoming) := by
  intro incoming
  obtain ⟨action, hroutes, haction⟩ := routesAt_main settings ht
  have hd : (app settings).dispatch? env request = some _ :=
    App.dispatch?_of_choose (choose_eq_some_iff.mpr hleads)
  rw [App.dispatchAt_fetches hroutes rfl hm] at hd
  refine ⟨_, hd, ?_⟩
  show Handler.ofResult (action env) _ = Handler.ofResult _ _
  unfold Handler.ofResult
  rw [haction env (Layer.traced env incoming) rfl]
  rfl

theorem dispatch?_refuses (hleads : Leads request.path t parts) (ht : t ∈ mainTemplates)
    (hm : request.method.fetches = false) :
    (app settings).dispatch? env request =
      some ⟨.main, App.notAllowed, .refused "GET,HEAD", ⟨request, t, parts, none⟩⟩ := by
  obtain ⟨action, hroutes, -⟩ := routesAt_main settings ht
  have hd : (app settings).dispatch? env request = some _ :=
    App.dispatch?_of_choose (choose_eq_some_iff.mpr hleads)
  rw [App.dispatchAt_refuses hroutes rfl hm] at hd
  exact hd

theorem answers_of_names (h : Names path q) : Answers settings path q := by
  obtain ⟨t, ht, parts, hleads, hq⟩ := h.leads
  refine ⟨t, ht, parts, ?_⟩
  rintro env request j rfl served within answered refused
  rw [← fetches_iff]
  refine ⟨fun hm => ?_, fun hm => ?_⟩
  · obtain ⟨handler, hd, hhandler⟩ := dispatch?_fetches hleads ht hm
    rw [hq request] at hhandler
    exact App.serve_of_seen hd rfl hhandler.symm j
  · have hd : (app settings).dispatch? env request = some _ :=
      dispatch?_refuses hleads ht (Bool.eq_false_iff.mpr hm)
    exact App.serve_of_seen hd rfl rfl j

theorem result_check_empty : (Question.check "").result settings env =
    .error (.invalidArgument "target parameter required") := rfl

theorem result_metric_empty : (Question.metric "").result settings env =
    .error (.invalidArgument "metric parameter required") := rfl

/-- The answer to a question is given to the client, and a failure to answer it is told, if it may
be seen. -/
theorem serve_of_names (h : Names request.path q) (hm : request.method = .get) (j : Journal) :
    let response := (((app settings).serve env request).run j).1
    (∀ v, q.result settings env = .ok v → response.status = 200 ∧ response.body = v.body) ∧
    (∀ e, q.result settings env = .error e → e.kind ≠ .internalOnly →
      response.Tells e.kind e.message) := by
  intro response
  obtain ⟨t, ht, parts, hleads, hq⟩ := h.leads
  have hfetches : request.method.fetches = true := fetches_iff.mpr (.inl hm)
  obtain ⟨handler, hd, hhandler⟩ := dispatch?_fetches hleads ht hfetches
  rw [hq request] at hhandler
  have houtcome (begun : Journal) :
      ((handler (Layer.traced env ⟨request, t, parts, none⟩)).run begun).1 =
        .answered (.ofResult (q.result settings env)) := by
    rw [hhandler, ← (Question.leaves_answer q).result begun]
    rfl
  exact App.serve_main_of_result hd rfl hm (houtcome _)

theorem tells_serve_of_names (h : Names request.path q) (hm : request.method = .get) {e : Failure}
    (he : q.result settings env = .error e) (hk : e.kind ≠ .internalOnly) (j : Journal) :
    (((app settings).serve env request).run j).1.Tells e.kind e.message :=
  (serve_of_names h hm j).2 e he hk

end

/-! ## Other paths -/

/-- Requests with a path are not found, and leave nothing behind. -/
def Unknown (path : String) : Prop :=
  ∀ (env : Surroundings) (request : Request) (j : Journal), request.path = path →
    ((app settings).serve env request).run j = (⟨404, [("content-length", "0")], [], none⟩, j)

theorem unknown_of_not_names (hp : path ∉ probeTemplates) (hq : ∀ q, ¬ Names path q) :
    Unknown settings path := by
  rintro env request j rfl
  have hmain : ¬ IsMainPath request.path := by
    intro hmain
    obtain ⟨q, hnames⟩ := exists_names_of_isMainPath hmain
    exact hq q hnames
  rw [serve_of_not_isMainPath settings env hp hmain j]
  rfl

/-! ## Runs -/

/-- The metrics of the public application hold the templates of its main routes only. -/
theorem pathsIn_app (requests : List (Surroundings × Request)) :
    ((app settings).after requests {}).metrics.PathsIn mainTemplates := by
  refine App.pathsIn_after (app_keepsTraffic settings) ?_ requests .fresh
  intro route hroute hgroup
  rcases mem_routes hroute with ⟨template, htemplate, action, rfl⟩ | ⟨template, -, rfl⟩
  · exact htemplate
  · exact absurd hgroup (show RouteGroup.bare ≠ .main by decide)

/-- **What each path is for.** A probe answers requests to it without layers and leaves nothing
behind. A path that names a question names no other, and its requests are answered with the answer
to that question, within the layers; without a target or an expression that can be read they are
told so. All other paths are unknown. After any run, every sample that tells requests apart has the
template of a main route for a path. -/
theorem routing_exact (settings : ApiSettings) :
    (∀ path ∈ ["/liveness", "/readiness", "/healthz"], Probes settings path) ∧
    (∀ path q, Names path q → (∀ q', Names path q' → q' = q) ∧ Answers settings path q) ∧
    (∀ rest, rest = "" ∨ Percent.segmentText? rest = none →
      ∀ (env : Surroundings) (request : Request) (j : Journal), request.method = .get →
        let response := (((app settings).serve env request).run j).1
        (request.path = "/api/v1/health/" ++ rest → response.status = 400 ∧
          response.body = octets "\x7b\"code\":3,\"message\":\"target parameter required\"\x7d") ∧
        (request.path = "/api/v1/metrics/" ++ rest → response.status = 400 ∧
          response.body =
            octets "\x7b\"code\":3,\"message\":\"metric parameter required\"\x7d")) ∧
    (∀ path, path ∉ ["/liveness", "/readiness", "/healthz"] → (∀ q, ¬ Names path q) →
      Unknown settings path) ∧
    ∀ requests : List (Surroundings × Request),
      let metrics := ((app settings).after requests {}).metrics
      ∀ family ∈ Exposition.families metrics, family.name ∈ Exposition.pathFamilies →
        ∀ sample ∈ family.samples, ∃ template ∈ mainTemplates,
          sample.labels.lookup "path" = some template := by
  refine ⟨fun path hp => probes_of_mem settings hp, fun path q hq => ⟨?_, answers_of_names hq⟩, ?_,
    fun path hp hq => unknown_of_not_names settings hp hq, ?_⟩
  · exact fun q' hq' => hq'.unique hq
  · intro rest hrest env request j hm response
    obtain ⟨hcheck, hmetric⟩ := names_of_unreadable hrest
    refine ⟨fun hpath => ?_, fun hpath => ?_⟩
    · rw [← hpath] at hcheck
      have hresult := @result_check_empty settings env
      have htells := tells_serve_of_names hcheck hm hresult (by decide) j
      exact ⟨htells.status, htells.body.trans (by decide +kernel)⟩
    · rw [← hpath] at hmetric
      have hresult := @result_metric_empty settings env
      have htells := tells_serve_of_names hmetric hm hresult (by decide) j
      exact ⟨htells.status, htells.body.trans (by decide +kernel)⟩
  · intro requests metrics family hfamily hname sample hsample
    exact Exposition.lookup_path_of_pathsIn (pathsIn_app settings requests) hfamily hname hsample

/-- A probe, a target that is no text, a path with a slash too many, and a run with all of them. -/
theorem routing_exact_sample :
    let settings : ApiSettings := ⟨"https://dash.example", ⟨none, "", "", 10⟩, "http://[::1]:9090"⟩
    let probed := ((app settings).serve .quiet (.to .get "/healthz")).run {}
    let unread := ((app settings).serve .quiet (.to .get "/api/v1/health/%FF")).run {}
    let unknown := ((app settings).serve .quiet (.to .get "/api/v1//health")).run {}
    let metrics := ((app settings).after [(.quiet, .to .get "/healthz"),
      (.quiet, .to .get "/api/v1/health/%FF"), (.quiet, .to .get "/api/v1//health")] {}).metrics
    probed.2 = {} ∧ probed.1.status = 200 ∧ probed.1.body = octets "\x7b\"status\":\"ok\"\x7d" ∧
      unread.1.status = 400 ∧
      unknown = (⟨404, [("content-length", "0")], [], none⟩, {}) ∧
      (∃ q, Names "/api/v1/health/%FF" q ∧ Answers settings "/api/v1/health/%FF" q) ∧
      ∀ family ∈ Exposition.families metrics, family.name ∈ Exposition.pathFamilies →
        ∀ sample ∈ family.samples, ∃ template ∈ mainTemplates,
          sample.labels.lookup "path" = some template := by
  intro settings probed unread unknown metrics
  obtain ⟨hprobes, hanswers, hunread, hunknown, hlabels⟩ := routing_exact settings
  obtain ⟨hleft, -, hok⟩ :=
    hprobes "/healthz" (by decide +kernel) .quiet (.to .get "/healthz") {} rfl
  obtain ⟨hstatus, hbody⟩ := hok rfl
  have hnone : Percent.segmentText? "%FF" = none := by decide +kernel
  obtain ⟨htarget, -⟩ := hunread "%FF" (.inr hnone) .quiet (.to .get "/api/v1/health/%FF") {} rfl
  have hnames : Names "/api/v1/health/%FF" (.check ((Percent.segmentText? "%FF").getD "")) :=
    Names.check "%FF"
  have hnot : ∀ q, ¬ Names "/api/v1//health" q := by
    intro q hq
    obtain ⟨t, -, parts, hleads, -⟩ := hq.leads
    have hchoose := choose_eq_some_iff.mpr hleads
    rw [show Template.choose "/api/v1//health".toList (mainTemplates ++ probeTemplates) = none by
      decide +kernel] at hchoose
    cases hchoose
  exact ⟨hleft, hstatus, hbody, (htarget rfl).1,
    hunknown _ (by decide +kernel) hnot .quiet (.to .get "/api/v1//health") {} rfl,
    ⟨_, hnames, (hanswers _ _ hnames).2⟩, hlabels _⟩

end ProbeGateway.Api
