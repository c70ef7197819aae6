import ProbeGateway.Proofs.Service.Endpoints
import ProbeGateway.Proofs.Text.Percent

/-!
# Which requests reach the backends

1. A request asks a question if its method fetches and its path is that of the question (`Asks`);
   that is the complete question which it is taken to put (`asks_iff`).
2. A request makes at most one attempt to ask a backend, and all that this adds to the records of the
   backends is one (`recorded_serve`). Which backend is asked hangs on the question and on what is
   configured (`backend_attempt?_iff`).
3. A question of health is counted with the outcome of its attempt, unless it misses
   (`outcome_result`).
-/

namespace ProbeGateway.Api

/-! ## Requests that ask -/

/-- A path asks a question. -/
inductive PathAsks : (path : String) → Question → Prop
  | checks : PathAsks "/api/v1/health" .checks
  | alerts : PathAsks "/api/v1/alerts" .alerts
  | check {segment target : String} (h : Percent.segmentText? segment = some target)
      (hne : target ≠ "") : PathAsks ("/api/v1/health/" ++ segment) (.check target)
  | metric {segment expr : String} (h : Percent.segmentText? segment = some expr)
      (hne : expr ≠ "") : PathAsks ("/api/v1/metrics/" ++ segment) (.metric expr)

/-- A request asks a question. -/
structure Asks (request : Request) (q : Question) : Prop where
  method : request.method = .get ∨ request.method = .head
  path : PathAsks request.path q

variable {request : Request} {q : Question}

theorem taken_of_leads {t : String} {parts : List String} (h : Leads request.path t parts) :
    taken request = takenAt ⟨request, t, parts, none⟩ := by
  unfold taken
  rw [choose_eq_some_iff.mpr h]

theorem question?_takenAt {incoming : Incoming} :
    (takenAt incoming).question? = some q ↔
      incoming.template ∈ mainTemplates ∧ incoming.request.method.fetches = true ∧
        questionAt incoming = q := by
  unfold takenAt
  by_cases ht : incoming.template ∈ mainTemplates
  · by_cases hm : incoming.request.method.fetches = true
    · simp [ht, hm, Taken.question?]
    · rw [if_pos ht, if_neg hm]
      split
      · simp [hm, Taken.question?]
      · simp [hm, Taken.question?]
  · by_cases hm : incoming.request.method.fetches = true
    · simp [ht, hm, Taken.question?]
    · simp [ht, hm, Taken.question?]

theorem PathAsks.isComplete {path : String} (h : PathAsks path q) : q.isComplete = true := by
  cases h with
  | checks => rfl
  | alerts => rfl
  | check _ hne => exact decide_eq_true hne
  | metric _ hne => exact decide_eq_true hne

/-- A path asks the question that it names. -/
theorem PathAsks.names {path : String} (h : PathAsks path q) : Names path q := by
  cases h with
  | checks => exact .checks
  | alerts => exact .alerts
  | @check segment target h hne =>
    have hnames := Names.check segment
    rwa [h] at hnames
  | @metric segment expr h hne =>
    have hnames := Names.metric segment
    rwa [h] at hnames

theorem segmentText?_of_getD {segment : String} (h : (Percent.segmentText? segment).getD "" ≠ "") :
    Percent.segmentText? segment = some ((Percent.segmentText? segment).getD "") := by
  cases hs : Percent.segmentText? segment with
  | some text => rfl
  | none => exact absurd (congrArg (Option.getD · "") hs) h

/-- A path that leads to a complete question asks it. -/
theorem pathAsks_of_leads {path t : String} {parts : List String} (h : Leads path t parts)
    (ht : t ∈ mainTemplates) (hcomplete : (questionAt ⟨request, t, parts, none⟩).isComplete = true) :
    PathAsks path (questionAt ⟨request, t, parts, none⟩) := by
  cases h with
  | literal hlit =>
    simp only [mainTemplates, List.mem_cons, List.not_mem_nil, or_false] at ht
    rcases ht with rfl | rfl | rfl | rfl | rfl | rfl
    · exact .checks
    · exact absurd hcomplete (show ¬ (Question.check "").isComplete = true by decide)
    · exact absurd hlit (by decide +kernel)
    · exact .alerts
    · exact absurd hcomplete (show ¬ (Question.metric "").isComplete = true by decide)
    · exact absurd hlit (by decide +kernel)
  | @behind _ _ rest hopen hr =>
    simp only [openTemplates, List.mem_cons, Prod.mk.injEq, List.not_mem_nil, or_false] at hopen
    have hne : (Percent.segmentText? rest).getD "" ≠ "" := by
      rcases hopen with ⟨rfl, rfl⟩ | ⟨rfl, rfl⟩
      all_goals exact of_decide_eq_true hcomplete
    rcases hopen with ⟨rfl, rfl⟩ | ⟨rfl, rfl⟩
    · exact .check (segmentText?_of_getD hne) hne
    · exact .metric (segmentText?_of_getD hne) hne

/-- A request asks what it puts to the backends, if that is complete. -/
theorem asks_iff : Asks request q ↔ (taken request).question? = some q ∧ q.isComplete = true := by
  constructor
  · intro h
    obtain ⟨t, ht, parts, hleads, hq⟩ := h.path.names.leads
    rw [taken_of_leads hleads, question?_takenAt]
    exact ⟨⟨ht, fetches_iff.mpr h.method, hq request⟩, h.path.isComplete⟩
  · rintro ⟨htaken, hcomplete⟩
    cases hc : Template.choose request.path.toList (mainTemplates ++ probeTemplates) with
    | none =>
      unfold taken at htaken
      rw [hc] at htaken
      exact absurd htaken (by simp [Taken.question?])
    | some found =>
      have hleads := choose_eq_some_iff.mp hc
      rw [taken_of_leads hleads, question?_takenAt] at htaken
      obtain ⟨ht, hm, rfl⟩ := htaken
      exact ⟨fetches_iff.mp hm, pathAsks_of_leads hleads ht hcomplete⟩

/-! ## What an attempt leaves -/

/-- All that an attempt adds to the calls and to the records of the backends; without an attempt
nothing is added. -/
inductive Recorded (j j' : Journal) : Option Attempt → Prop
  | none (hcalls : j'.calls = j.calls)
      (hrequests : j'.metrics.backendRequests = j.metrics.backendRequests)
      (hdurations : j'.metrics.backendDurations = j.metrics.backendDurations) :
      Recorded j j' none
  | some {a : Attempt} (hcalls : j'.calls = j.calls ++ a.sent.toList)
      (hrequests : j'.metrics.backendRequests = j.metrics.backendRequests.add
        (Metrics.backendSeries a.backend.name a.backend.endpoint a.outcome))
      (hdurations : j'.metrics.backendDurations = j.metrics.backendDurations.observe
        (Metrics.endpointSeries a.backend.name a.backend.endpoint) a.seconds) :
      Recorded j j' (some a)

variable {settings : ApiSettings} {env : Surroundings}

/-- Recording a response leaves the records of the backends and of health as they are. -/
theorem consults_recording (recording : Option Recording) (m : Metrics) :
    let m' := (recording.map Mark.response).toList.foldl Mark.apply m
    m'.backendRequests = m.backendRequests ∧ m'.backendDurations = m.backendDurations ∧
      m'.healthQueries = m.healthQueries := by
  cases recording with
  | none => exact ⟨rfl, rfl, rfl⟩
  | some r =>
    have happly : [Mark.response r].foldl Mark.apply m = r.complete m := rfl
    rw [Option.map_some, Option.toList_some, happly, Recording.complete_record]
    exact ⟨rfl, rfl, rfl⟩

variable (settings env) in
/-- The marks of a request, one kind after the other. -/
theorem metrics_serve (request : Request) (j : Journal) :
    ∃ recording : Option Recording,
      (((app settings).serve env request).run j).2.metrics =
        (recording.map Mark.response).toList.foldl Mark.apply
          ((Mark.healthQueries ((taken request).healthQuery? settings env)).foldl Mark.apply
            ((Attempt.marks ((taken request).attempt? settings env)).foldl Mark.apply j.metrics)) := by
  refine ⟨(taken request).recording? settings env, ?_⟩
  rw [(leaves_serve settings env request).metrics, Taken.marks, List.foldl_append,
    List.foldl_append]

/-- A request leaves the attempt that it makes. -/
theorem recorded_serve (request : Request) (j : Journal) :
    Recorded j (((app settings).serve env request).run j).2
      ((taken request).attempt? settings env) := by
  have hcalls := (leaves_serve settings env request).calls j
  obtain ⟨recording, hmetrics⟩ := metrics_serve settings env request j
  unfold Taken.calls at hcalls
  obtain ⟨hrequests, hdurations, -⟩ := consults_recording recording
    ((Mark.healthQueries ((taken request).healthQuery? settings env)).foldl Mark.apply
      ((Attempt.marks ((taken request).attempt? settings env)).foldl Mark.apply j.metrics))
  rw [← hmetrics] at hrequests hdurations
  generalize (taken request).attempt? settings env = attempt at *
  generalize (taken request).healthQuery? settings env = query at *
  cases attempt with
  | none =>
    refine .none (hcalls.trans (List.append_nil _)) (hrequests.trans ?_) (hdurations.trans ?_)
    all_goals
      cases query with
      | none => rfl
      | some q => rfl
  | some a =>
    refine .some hcalls (hrequests.trans ?_) (hdurations.trans ?_)
    all_goals
      cases query with
      | none => rfl
      | some q => rfl

variable (settings env) in
/-- A request leaves the query of health that it is counted as. -/
theorem healthQueries_serve (request : Request) (j : Journal) :
    (((app settings).serve env request).run j).2.metrics.healthQueries =
      match (taken request).healthQuery? settings env with
      | some (operation, outcome) =>
        j.metrics.healthQueries.add (Metrics.querySeries operation outcome)
      | none => j.metrics.healthQueries := by
  obtain ⟨recording, hmetrics⟩ := metrics_serve settings env request j
  rw [hmetrics, (consults_recording recording _).2.2]
  generalize (taken request).attempt? settings env = attempt
  cases (taken request).healthQuery? settings env with
  | none => cases attempt <;> rfl
  | some q => cases attempt <;> rfl

/-! ## Which attempts are made -/

theorem Asks.isComplete (h : Asks request q) : q.isComplete = true := (asks_iff.mp h).2

theorem attempt?_of_asks (h : Asks request q) :
    (taken request).attempt? settings env = q.attempt? settings env := by
  unfold Taken.attempt?
  rw [(asks_iff.mp h).1]
  rfl

theorem healthQuery?_of_asks (h : Asks request q) :
    (taken request).healthQuery? settings env = q.healthQuery? settings env := by
  unfold Taken.healthQuery?
  rw [(asks_iff.mp h).1]
  rfl

/-- A request that makes an attempt, or is counted as a query of health, asks. -/
theorem asks_of_attempt? {a : Attempt} (h : (taken request).attempt? settings env = some a) :
    ∃ q, Asks request q ∧ q.attempt? settings env = some a := by
  obtain ⟨q, hq, ha⟩ := Option.bind_eq_some_iff.mp h
  refine ⟨q, asks_iff.mpr ⟨hq, ?_⟩, ha⟩
  unfold Question.attempt? at ha
  split at ha
  · assumption
  · exact absurd ha (by simp)

theorem asks_of_healthQuery? {query : String × String}
    (h : (taken request).healthQuery? settings env = some query) :
    ∃ q, Asks request q ∧ q.operation? = some query.1 := by
  obtain ⟨q, hq, hquery⟩ := Option.bind_eq_some_iff.mp h
  unfold Question.healthQuery? at hquery
  split at hquery
  · obtain ⟨operation, hoperation, rfl⟩ := Option.map_eq_some_iff.mp hquery
    exact ⟨q, asks_iff.mpr ⟨hq, by assumption⟩, hoperation⟩
  · exact absurd hquery (by simp)

/-- The backend with the rules is configured. -/
def Configured (settings : ApiSettings) : Prop :=
  ∃ url, settings.rules.url = some url ∧ url ≠ ""

variable (env) in
theorem isSome_attempt?_rules :
    (RulesStore.attempt? settings.rules env).isSome = true ↔ Configured settings := by
  unfold Configured RulesStore.attempt? RulesStore.base?
  cases settings.rules.url with
  | none => simp
  | some url => by_cases hu : url = "" <;> simp [hu]

theorem backend_of_attempt? {a : Attempt} (h : q.attempt? settings env = some a) :
    a.backend = q.backend := by
  unfold Question.attempt? at h
  split at h
  · cases q with
    | metric expr => exact congrArg Attempt.backend (Option.some.inj h).symm
    | _ =>
      obtain ⟨base, -, rfl⟩ := Option.map_eq_some_iff.mp h
      rfl
  · exact absurd h (by simp)

variable (env) in
/-- The backend with the metrics is always asked, that with the rules if it is configured. -/
theorem isSome_attempt?_iff (h : q.isComplete = true) :
    (q.attempt? settings env).isSome = true ↔ (q.backend = .rules → Configured settings) := by
  unfold Question.attempt?
  rw [if_pos h, ← isSome_attempt?_rules env]
  cases q with
  | metric expr => simp [Question.backend]
  | _ => simp [Question.backend]

/-- A request makes an attempt if it asks a backend that is configured. -/
theorem backend_attempt?_iff (b : Backend) :
    ((taken request).attempt? settings env).map (·.backend) = some b ↔
      ∃ q, Asks request q ∧ q.backend = b ∧ (b = .rules → Configured settings) := by
  constructor
  · intro h
    obtain ⟨a, ha, rfl⟩ := Option.map_eq_some_iff.mp h
    obtain ⟨q, hq, hattempt⟩ := asks_of_attempt? ha
    have hsome : (q.attempt? settings env).isSome = true := by rw [hattempt, Option.isSome_some]
    rw [backend_of_attempt? hattempt]
    exact ⟨q, hq, rfl, (isSome_attempt?_iff env hq.isComplete).mp hsome⟩
  · rintro ⟨q, hq, rfl, hconfigured⟩
    obtain ⟨a, ha⟩ := Option.isSome_iff_exists.mp
      ((isSome_attempt?_iff env hq.isComplete).mpr hconfigured)
    rw [attempt?_of_asks hq, ha, Option.map_some, backend_of_attempt? ha]

/-! ## What a question of health is counted as -/

/-- A target is asked for that the payload does not hold. -/
def Question.Misses (settings : ApiSettings) (env : Surroundings) (q : Question) : Prop :=
  ∃ target payload, q = .check target ∧ RulesStore.delivered settings.rules env = .ok payload ∧
    ∀ c ∈ RulesStore.checksOf env.now payload, c.target ≠ target

theorem Question.misses_iff {target : String} {payload : Json}
    (h : RulesStore.delivered settings.rules env = .ok payload) :
    (Question.check target).Misses settings env ↔
      ∀ c ∈ RulesStore.checksOf env.now payload, c.target ≠ target := by
  constructor
  · rintro ⟨target', payload', ht, hp, hnone⟩
    rw [h] at hp
    obtain rfl := Question.check.inj ht
    obtain rfl := Except.ok.inj hp
    exact hnone
  · exact fun hnone => ⟨target, payload, rfl, h, hnone⟩

/-- A target is looked up with success just if the payload holds it. -/
theorem outcome_checkOf (now : Instant) (target : String) (payload : Json) :
    Metrics.outcome (RulesStore.checkOf now target payload) =
      if ∀ c ∈ RulesStore.checksOf now payload, c.target ≠ target then "NotFound"
      else "success" := by
  unfold RulesStore.checkOf
  cases hfind : (RulesStore.checksOf now payload).find? (·.target = target) with
  | none =>
    rw [if_pos fun c hc ht => List.find?_eq_none.mp hfind c hc (decide_eq_true ht)]
    rfl
  | some c =>
    have hfound := List.find?_some hfind
    have ht : c.target = target := of_decide_eq_true hfound
    rw [if_neg fun hnone => hnone c (List.mem_of_find?_eq_some hfind) ht]
    rfl

variable (settings env) in
/-- The outcome of a question of health is that of the fetch, unless it misses. -/
theorem outcome_result (h : q.isComplete = true) (hq : q.backend = .rules) :
    let fetched := Metrics.outcome (RulesStore.delivered settings.rules env)
    let outcome := Metrics.outcome (q.result settings env)
    (q.Misses settings env → fetched = "success" ∧ outcome = "NotFound") ∧
      (¬ q.Misses settings env → outcome = fetched) := by
  cases q with
  | metric expr => exact absurd hq (by simp [Question.backend])
  | checks =>
    refine ⟨fun hmisses => ?_, fun _ => Metrics.outcome_map _ _⟩
    obtain ⟨_, _, he, -⟩ := hmisses
    cases he
  | alerts =>
    refine ⟨fun hmisses => ?_, fun _ => Metrics.outcome_map _ _⟩
    obtain ⟨_, _, he, -⟩ := hmisses
    cases he
  | check target =>
    have ht : target ≠ "" := of_decide_eq_true h
    have hresult : (Question.check target).result settings env =
        ((RulesStore.delivered settings.rules env).bind
          (RulesStore.checkOf env.now target)).map HealthCheck.json := if_neg ht
    dsimp only
    rw [hresult, Metrics.outcome_map]
    cases hd : RulesStore.delivered settings.rules env with
    | error e =>
      refine ⟨fun hmisses => ?_, fun _ => rfl⟩
      obtain ⟨_, _, -, hp, -⟩ := hmisses
      rw [hd] at hp
      cases hp
    | ok payload =>
      have houtcome := outcome_checkOf env.now target payload
      rw [Question.misses_iff hd]
      refine ⟨fun hnone => ⟨rfl, ?_⟩, fun hsome => ?_⟩
      · rw [if_pos hnone] at houtcome
        exact houtcome
      · rw [if_neg hsome] at houtcome
        exact houtcome

/-- The outcome of a question of health while no backend is configured. -/
theorem outcome_result_unconfigured (h : q.isComplete = true) (hq : q.backend = .rules)
    (hnone : RulesStore.base? settings.rules = none) :
    Metrics.outcome (q.result settings env) = "Unavailable" := by
  have hdelivered : RulesStore.delivered settings.rules env =
      .error (.unavailable "grafana not configured") := by
    unfold RulesStore.delivered
    rw [hnone]
  obtain ⟨hmisses, hother⟩ := outcome_result settings env h hq
  rw [hdelivered] at hmisses hother
  refine hother fun hm => ?_
  exact absurd (hmisses hm).1 (by decide +kernel)

/-! ## The discipline -/

/-- The address that is called at a backend. -/
def address (settings : ApiSettings) : Backend → String
  | .rules => Url.under (settings.rules.url.getD "") RulesStore.rulesPath
  | .metrics => Url.under settings.metricsUrl Query.queryPath

theorem attempt_rules {a : Attempt} (h : RulesStore.attempt? settings.rules env = some a) :
    a.backend = .rules ∧
      a.sent = RulesStore.sent? settings.rules env (address settings .rules) ∧
      a.outcome = Metrics.outcome (RulesStore.delivered settings.rules env) := by
  obtain ⟨base, hbase, rfl⟩ := Option.map_eq_some_iff.mp h
  refine ⟨rfl, ?_, rfl⟩
  have hurl : settings.rules.url.getD "" = base := by
    rw [(Option.filter_eq_some_iff.mp hbase).1, Option.getD_some]
  unfold address
  rw [hurl]

/-- An attempt sends its call to its backend, if the address can be called. -/
theorem sent_of_attempt? {a : Attempt} (h : q.attempt? settings env = some a) :
    (∀ call ∈ a.sent, call.backend = a.backend) ∧
      a.sent.isSome = (Url.parse? (address settings a.backend)).isSome := by
  unfold Question.attempt? at h
  split at h
  · cases q with
    | metric expr =>
      obtain rfl := Option.some.inj h
      unfold Query.attempt Query.sent? address
      dsimp only
      refine ⟨fun call hcall => ?_, Option.isSome_map⟩
      obtain ⟨url, -, rfl⟩ := Option.map_eq_some_iff.mp hcall
      rfl
    | _ =>
      obtain ⟨hbackend, hsent, -⟩ := attempt_rules h
      rw [hbackend, hsent]
      unfold RulesStore.sent?
      refine ⟨fun call hcall => ?_, Option.isSome_map⟩
      obtain ⟨url, -, rfl⟩ := Option.map_eq_some_iff.mp hcall
      rfl
  · exact absurd h (by simp)

variable (settings env) in
/-- A question of health is counted with the outcome of its attempt, unless it misses. -/
theorem healthQuery?_eq {operation : String} (h : q.isComplete = true)
    (hoperation : q.operation? = some operation) :
    ∃ outcome, q.healthQuery? settings env = some (operation, outcome) ∧
      (q.attempt? settings env = none → outcome = "Unavailable") ∧
      ∀ a ∈ q.attempt? settings env,
        (q.Misses settings env → a.outcome = "success" ∧ outcome = "NotFound") ∧
        (¬ q.Misses settings env → outcome = a.outcome) := by
  have hbackend : q.backend = .rules := by
    cases q with
    | metric expr => cases hoperation
    | _ => rfl
  rw [Question.attempt?_rules h hoperation]
  refine ⟨Metrics.outcome (q.result settings env), ?_, fun hnone => ?_, fun a ha => ?_⟩
  · unfold Question.healthQuery?
    rw [if_pos h, hoperation]
    rfl
  · exact outcome_result_unconfigured h hbackend (Option.map_eq_none_iff.mp hnone)
  · rw [(attempt_rules ha).2.2]
    exact outcome_result settings env h hbackend

/-- **Which requests reach the backends.** A request makes at most one attempt to ask a backend, and
makes it just if it asks a question of that backend; the backend with the rules must be configured.
The attempt sends its call unless the address cannot be called, and adds one to the requests and to
the times of its backend. A question of health, and nothing else, is counted once as a query of
health: with the outcome of the attempt, as not found if the target is missed, and as unavailable if
there was no attempt. -/
theorem backend_discipline (settings : ApiSettings) (env : Surroundings) (request : Request)
    (j : Journal) :
    let j' := (((app settings).serve env request).run j).2
    ∃ attempt : Option Attempt,
      Recorded j j' attempt ∧
      (∀ b, attempt.map (·.backend) = some b ↔
        ∃ q, Asks request q ∧ q.backend = b ∧
          (b = .rules → ∃ url, settings.rules.url = some url ∧ url ≠ "")) ∧
      (∀ a ∈ attempt, (∀ call ∈ a.sent, call.backend = a.backend) ∧
        a.sent.isSome = (Url.parse? (address settings a.backend)).isSome) ∧
      (∀ q operation, Asks request q → q.operation? = some operation →
        ∃ outcome,
          j'.metrics.healthQueries =
            j.metrics.healthQueries.add (Metrics.querySeries operation outcome) ∧
          (attempt = none → outcome = "Unavailable") ∧
          ∀ a ∈ attempt,
            (q.Misses settings env → a.outcome = "success" ∧ outcome = "NotFound") ∧
            (¬ q.Misses settings env → outcome = a.outcome)) ∧
      ((∀ q, Asks request q → q.operation? = none) →
        j'.metrics.healthQueries = j.metrics.healthQueries) := by
  intro j'
  have hhealth := healthQueries_serve settings env request j
  refine ⟨(taken request).attempt? settings env, recorded_serve request j, backend_attempt?_iff,
    fun a ha => ?_, fun q operation hq hoperation => ?_, fun hnone => ?_⟩
  · obtain ⟨q, -, hattempt⟩ := asks_of_attempt? ha
    exact sent_of_attempt? hattempt
  · obtain ⟨outcome, hquery, houtcome⟩ :=
      healthQuery?_eq settings env hq.isComplete hoperation
    refine ⟨outcome, ?_, ?_⟩
    · rw [hhealth, healthQuery?_of_asks hq, hquery]
    · rw [attempt?_of_asks hq]
      exact houtcome
  · cases hquery : (taken request).healthQuery? settings env with
    | none => rw [hhealth, hquery]
    | some query =>
      obtain ⟨q, hq, hoperation⟩ := asks_of_healthQuery? hquery
      rw [hnone q hq] at hoperation
      cases hoperation

end ProbeGateway.Api
