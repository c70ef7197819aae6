import ProbeGateway.Proofs.Health.Store
import ProbeGateway.Proofs.Health.Summary
import ProbeGateway.Proofs.Http.Target
import ProbeGateway.Proofs.Pipeline.Envelope
import ProbeGateway.Proofs.Service.Routing
import ProbeGateway.Proofs.Text.Percent

/-!
# Looking up targets

Every target that is listed can be looked up behind the route of its check, in any percent-encoding,
and nothing else can (`lookup_listed`).

1. The address of a look-up leads to the target that it spells (`leads_of_spells`).
2. What a main route fetches reaches the client as it is (`serve_fetching`).
3. The first check of a target comes from the same rule at any time (`find?_checksOf`); only a check
   that was made just now depends on the time (`HealthCheck.Retimed`).
-/

namespace ProbeGateway

/-! ## The time of a check -/

/-- A check at another time: the same, unless it was made just now. -/
def HealthCheck.Retimed (now now' : Instant) (c c' : HealthCheck) : Prop :=
  c' = c ∨ c.lastChecked = now ∧ c' = { c with lastChecked := now' }

namespace Rule

variable {now : Instant} {rule : Rule} {c : HealthCheck}

theorem check?_retimed (h : rule.check? now = some c) (now' : Instant) :
    ∃ c', rule.check? now' = some c' ∧ c.Retimed now now' c' := by
  unfold check? at h ⊢
  obtain ⟨target, htarget, rfl⟩ := Option.map_eq_some_iff.mp h
  rw [htarget]
  refine ⟨_, rfl, ?_⟩
  cases rule.activeAt.bind activeInstant? with
  | none => exact .inr ⟨rfl, rfl⟩
  | some t => exact .inl rfl

/-- Which target a rule checks does not depend on the time. -/
theorem any_check? (now : Instant) (rule : Rule) (target : String) :
    (rule.check? now).any (·.target = target) = decide (rule.label? "target" = some target) := by
  unfold check?
  cases rule.label? "target" with
  | none => rfl
  | some t => simp

end Rule

namespace RulesStore

variable (payload : Json) (target : String)

/-- The first check of a target comes from the first rule with that target. -/
theorem find?_checksOf (now : Instant) :
    (checksOf now payload).find? (·.target = target) =
      ((Rule.ofPayload payload).find? (·.label? "target" = some target)).bind
        (Rule.check? now) := by
  unfold checksOf Rule.checks
  rw [List.find?_filterMap]
  simp only [Rule.any_check?]

variable {payload target}

theorem find?_checksOf_retimed {now : Instant} {c : HealthCheck}
    (h : (checksOf now payload).find? (·.target = target) = some c) (now' : Instant) :
    ∃ c', (checksOf now' payload).find? (·.target = target) = some c' ∧
      c.Retimed now now' c' := by
  rw [find?_checksOf] at h ⊢
  obtain ⟨rule, hrule, hcheck⟩ := Option.bind_eq_some_iff.mp h
  rw [hrule, Option.bind_some]
  exact Rule.check?_retimed hcheck now'

theorem find?_checksOf_eq_none {now : Instant}
    (h : ∀ c ∈ checksOf now payload, c.target ≠ target) (now' : Instant) :
    (checksOf now' payload).find? (·.target = target) = none := by
  cases hfind : (checksOf now' payload).find? (·.target = target) with
  | none => rfl
  | some c =>
    obtain ⟨c', hc', -⟩ := find?_checksOf_retimed hfind now
    have htarget := List.find?_some hc'
    exact absurd (of_decide_eq_true htarget) (h c' (List.mem_of_find?_eq_some hc'))

theorem target_ne_empty {now : Instant} {c : HealthCheck} (h : c ∈ checksOf now payload) :
    c.target ≠ "" := by
  obtain ⟨rule, -, hcheck⟩ := List.mem_filterMap.mp h
  obtain ⟨t, ht, rfl⟩ := Option.map_eq_some_iff.mp hcheck
  exact of_decide_eq_true (Option.filter_eq_some_iff.mp ht).2

end RulesStore

/-! ## Addresses -/

/-- A request fetches what stands at an address. -/
structure Request.Fetches (request : Request) (uri : String) : Prop where
  method : request.method = .get
  path : request.path = (RequestTarget.parse uri).path

namespace Api

variable {request : Request} {e target : String}

theorem leads_of_fetches (h : request.Fetches healthTemplate) :
    Leads request.path healthTemplate [] := by
  rw [h.path, show (RequestTarget.parse healthTemplate).path = healthTemplate by decide +kernel]
  exact .literal (by decide +kernel)

/-- Behind the beginning of an open template a spelling is all of the path, up to a query. -/
theorem path_of_fetches {beginning template question : String}
    (hopen : (beginning, template) ∈ openTemplates)
    (he : Percent.Spells e.toList (octets target))
    (hquestion : ∀ c ∈ question.toList.head?, c = '?')
    (h : request.Fetches (beginning ++ e ++ question)) : request.path = beginning ++ e := by
  -- The beginnings hold nothing that ends a path.
  have hopens : ∀ o ∈ openTemplates, o.1.toList.head? = some '/' ∧
      o.1.toList.all (fun c => !RequestTarget.endsPath c) = true := by decide +kernel
  obtain ⟨hslash, hplain⟩ := hopens _ hopen
  obtain ⟨rest, hrest⟩ := List.head?_eq_some_iff.mp hslash
  have hcut : Cut (fun c => !RequestTarget.endsPath c) (beginning ++ e).toList question.toList := by
    constructor
    · intro c hc
      rw [String.toList_append] at hc
      rcases List.mem_append.mp hc with hc | hc
      · exact List.all_eq_true.mp hplain c hc
      · obtain ⟨hquery, hhash⟩ := he.ends_no_path c hc
        simp [RequestTarget.endsPath, hquery, hhash]
    · intro c hc
      rw [hquestion c hc]
      rfl
  have hhead : (beginning ++ e).toList.head? = some '/' := by
    rw [String.toList_append, hrest]
    rfl
  have hparse := RequestTarget.parse_append hhead hcut
  rw [← String.toList_append, String.ofList_toList, String.ofList_toList] at hparse
  rw [h.path, hparse]

/-- An address with a spelling behind the beginning of an open template leads to the spelling. -/
theorem leads_of_spells {beginning template : String}
    (hopen : (beginning, template) ∈ openTemplates)
    (he : Percent.Spells e.toList (octets target)) (ht : target ≠ "")
    (h : request.Fetches (beginning ++ e)) : Leads request.path template [e] := by
  have hfetches : request.Fetches (beginning ++ e ++ "") := by rwa [String.append_empty]
  have hnone : ∀ c ∈ "".toList.head?, c = '?' := by
    rw [String.toList_empty]
    exact nofun
  rw [path_of_fetches hopen he hnone hfetches]
  exact .behind hopen (Percent.ne_empty_of_spells he ht)

/-- What a path has behind its route is what is spelled there. -/
theorem parameter_of_spells (he : Percent.Spells e.toList (octets target)) {incoming : Incoming}
    (hparts : incoming.parts = [e]) : parameter incoming = target := by
  unfold parameter
  rw [hparts, List.head?_cons, Option.bind_some, Percent.segmentText?_of_spells he]
  rfl

/-! ## Answers -/

variable {settings : ApiSettings} {env : Surroundings}

/-- What a main route fetches reaches the client: a value as it is, and a failure as far as it may
be seen. -/
theorem serve_fetching {template : String} {parts : List String}
    {action : Surroundings → Incoming → Action (Except Failure Json)}
    (hleads : Leads request.path template parts) (hget : request.method = .get)
    (hroute : App.methodRoute? .get ((app settings).routesAt template) =
      some (fetching template action))
    {result : Except Failure Json}
    (hresult : ∀ incoming j, incoming.parts = parts → ((action env incoming).run j).1 = result)
    (j : Journal) :
    let response := (((app settings).serve env request).run j).1
    (∀ v, result = .ok v → response.status = 200 ∧ response.body = v.body) ∧
    (∀ e, result = .error e → e.kind ≠ .internalOnly → response.Tells e.kind e.message) := by
  intro response
  let d : Dispatch :=
    ⟨.main, .ofResult (action env), .byMethod, ⟨request, template, parts, none⟩⟩
  have hd : (app settings).dispatch? env request = some d := by
    rw [App.dispatch?_of_choose (choose_eq_some_iff.mpr hleads)]
    unfold App.dispatchAt
    dsimp only
    rw [hget, hroute]
    rfl
  -- The handler runs on the request as the trace layer hands it on, with the same parts.
  have houtcome : (d.outcome env j).1 = .answered (.ofResult result) := by
    rw [← hresult (Layer.traced env d.incoming) (Layer.opened env d.incoming j) rfl]
    rfl
  exact App.serve_main_of_result hd rfl hget houtcome

variable {payload : Json}

theorem checks_run (h : RulesStore.delivered settings.rules env = .ok payload) (j : Journal) :
    ((checks settings env).run j).1 =
      .ok (HealthSummary.ofChecks (RulesStore.checksOf env.now payload)).json := by
  show (((store settings env).queryChecks.run j).1).map HealthSummary.json = _
  rw [HealthStore.queryChecks_run]
  unfold store
  rw [RulesStore.checks_run, h]
  rfl

theorem check_run (h : RulesStore.delivered settings.rules env = .ok payload) (ht : target ≠ "")
    (j : Journal) :
    ((check settings env target).run j).1 =
      (RulesStore.checkOf env.now target payload).map HealthCheck.json := by
  unfold check
  rw [if_neg ht]
  show (((store settings env).queryCheck target).run j).1.map HealthCheck.json = _
  rw [HealthStore.queryCheck_run]
  unfold store
  rw [RulesStore.check_run, h]
  rfl

/-- All checks of the payload are answered. -/
theorem serve_checks (h : RulesStore.delivered settings.rules env = .ok payload)
    (hlist : request.Fetches healthTemplate) (j : Journal) :
    let response := (((app settings).serve env request).run j).1
    response.status = 200 ∧ response.body =
      (HealthSummary.ofChecks (RulesStore.checksOf env.now payload)).json.body := by
  have hroute : App.methodRoute? .get ((app settings).routesAt healthTemplate) =
      some (fetching healthTemplate fun env _ => checks settings env) := rfl
  exact (serve_fetching (leads_of_fetches hlist) hlist.method hroute
    (fun _ j _ => checks_run h j) j).1 _ rfl

/-- The first check of a target is answered, or the failure to find one. -/
theorem serve_check (h : RulesStore.delivered settings.rules env = .ok payload)
    (he : Percent.Spells e.toList (octets target)) (ht : target ≠ "")
    (hfind : request.Fetches (noTargetTemplate ++ e)) (j : Journal) :
    let response := (((app settings).serve env request).run j).1
    (∀ c, RulesStore.checkOf env.now target payload = .ok c →
      response.status = 200 ∧ response.body = c.json.body) ∧
    (∀ e, RulesStore.checkOf env.now target payload = .error e → e.kind ≠ .internalOnly →
      response.Tells e.kind e.message) := by
  have hroute : App.methodRoute? .get ((app settings).routesAt targetTemplate) =
      some (fetching targetTemplate fun env incoming =>
        check settings env (parameter incoming)) := rfl
  have hresult (incoming : Incoming) (j : Journal) (hparts : incoming.parts = [e]) :
      ((check settings env (parameter incoming)).run j).1 =
        (RulesStore.checkOf env.now target payload).map HealthCheck.json := by
    rw [parameter_of_spells he hparts]
    exact check_run h ht j
  obtain ⟨hvalue, hfailure⟩ :=
    serve_fetching (leads_of_spells (.head _) he ht hfind) hfind.method hroute hresult j
  refine ⟨fun c hc => hvalue c.json ?_, fun e he => hfailure e ?_⟩
  · rw [hc]
    rfl
  · rw [he]
    rfl

/-! ## Looking up what is listed -/

/-- The address of a listed target is answered with the first check that is listed for it, whenever
the list was made. -/
theorem serve_check_of_listed (h : RulesStore.delivered settings.rules env = .ok payload)
    (he : Percent.Spells e.toList (octets target))
    (hfind : request.Fetches (noTargetTemplate ++ e)) {now : Instant}
    (hlisted : ∃ c ∈ RulesStore.checksOf now payload, c.target = target) (j : Journal) :
    let response := (((app settings).serve env request).run j).1
    ∃ first shown,
      (RulesStore.checksOf now payload).find? (·.target = target) = some first ∧
      first.Retimed now env.now shown ∧
      response.status = 200 ∧ response.body = shown.json.body := by
  intro response
  obtain ⟨c, hc, htarget⟩ := hlisted
  have ht : target ≠ "" := by
    rw [← htarget]
    exact RulesStore.target_ne_empty hc
  cases hfirst : (RulesStore.checksOf now payload).find? (·.target = target) with
  | none => exact absurd htarget (by simpa using List.find?_eq_none.mp hfirst c hc)
  | some first =>
    obtain ⟨shown, hshown, hretimed⟩ := RulesStore.find?_checksOf_retimed hfirst env.now
    have hcheck : RulesStore.checkOf env.now target payload = .ok shown := by
      unfold RulesStore.checkOf
      rw [hshown]
    exact ⟨first, shown, rfl, hretimed, (serve_check h he ht hfind j).1 shown hcheck⟩

/-- The address of anything else is answered with a failure that names it. -/
theorem serve_check_of_not_listed (h : RulesStore.delivered settings.rules env = .ok payload)
    (he : Percent.Spells e.toList (octets target)) (ht : target ≠ "")
    (hfind : request.Fetches (noTargetTemplate ++ e)) {now : Instant}
    (hnone : ∀ c ∈ RulesStore.checksOf now payload, c.target ≠ target) (j : Journal) :
    (((app settings).serve env request).run j).1.Tells .notFound
      ("target not found: " ++ target) := by
  have hmissing : RulesStore.checkOf env.now target payload =
      .error (.notFound ("target not found: " ++ target)) := by
    unfold RulesStore.checkOf
    rw [RulesStore.find?_checksOf_eq_none hnone env.now]
  exact (serve_check h he ht hfind j).2 _ hmissing
    (show ErrorKind.notFound ≠ .internalOnly by decide)

/-- **Every listed target can be looked up, and nothing else can.** While the backend delivers one
payload, the address that spells a target, in any way, is answered with the members of the first
check that is listed for it; and one that spells anything else, with the failure that names what was
spelled. -/
theorem lookup_listed {env' : Surroundings}
    (h : RulesStore.delivered settings.rules env = .ok payload)
    (h' : RulesStore.delivered settings.rules env' = .ok payload) {list : Request}
    (hlist : list.Fetches "/api/v1/health") (j : Journal) :
    let listed := RulesStore.checksOf env.now payload
    let number (status : HealthStatus) : Json := .nat (listed.countP (·.status = status))
    let listing := (((app settings).serve env list).run j).1
    let members (c : HealthCheck) : Json :=
      .object ([("target", .text c.target), ("status", .text c.status.name),
        ("last_checked", .text c.lastChecked.text), ("probe", .text c.probe)] ++
        Json.optionalMember "instance" c.instanceName)
    listing.status = 200 ∧
    listing.body = (Json.object [("total", .nat listed.length), ("healthy", number .healthy),
      ("down", number .down), ("unknown", number .unknown),
      ("checks", .array (listed.map members))]).body ∧
    ∀ (target e : String), Percent.Spells e.toList (octets target) →
      ∀ (find : Request) (j' : Journal), find.Fetches ("/api/v1/health/" ++ e) →
        let answer := (((app settings).serve env' find).run j').1
        ((∃ c ∈ listed, c.target = target) → ∃ first shown,
          listed.find? (·.target = target) = some first ∧
          first.Retimed env.now env'.now shown ∧
          answer.status = 200 ∧ answer.body = (members shown).body) ∧
        (target ≠ "" → (∀ c ∈ listed, c.target ≠ target) →
          answer.status = 404 ∧
          answer.body = (Json.object [("code", .nat 5),
            ("message", .text ("target not found: " ++ target))]).body) := by
  intro listed number listing members
  obtain ⟨hstatus, hbody⟩ := serve_checks h hlist j
  rw [HealthSummary.ofChecks_eq] at hbody
  refine ⟨hstatus, hbody, fun target e he find j' hfind => ⟨fun hlisted => ?_, fun ht hnone => ?_⟩⟩
  · exact serve_check_of_listed h' he hfind hlisted j'
  · have htells := serve_check_of_not_listed h' he ht hfind hnone j'
    exact ⟨htells.status, htells.body.trans (Failure.body_eq_envelope (.notFound _)).symm⟩

/-- A target with a slash, a percent sign and a letter outside ASCII is found, with digits of either
case. -/
theorem lookup_listed_encoded :
    let rule := "\x7b\"labels\":\x7b\"target\":\"a/%é\"\x7d,\"state\":\"firing\"\x7d"
    let env : Surroundings :=
      { Surroundings.quiet with
        rules := .answered 200 (octets
          ("\x7b\"data\":\x7b\"groups\":[\x7b\"rules\":[" ++ rule ++ "]\x7d]\x7d\x7d")) }
    let settings : ApiSettings := ⟨"*", ⟨some "http://[::1]:3000", "", "", 10⟩, ""⟩
    let list := Request.to .get "/api/v1/health"
    let find := Request.to .get "/api/v1/health/a/%25%C3%a9"
    let answer := (((app settings).serve env find).run {}).1
    list.Fetches "/api/v1/health" ∧ find.Fetches ("/api/v1/health/" ++ "a/%25%C3%a9") ∧
      Percent.Spells "a/%25%C3%a9".toList (octets "a/%é") ∧
      (∃ payload, RulesStore.delivered settings.rules env = .ok payload) ∧
      answer.status = 200 ∧
      answer.body = (HealthCheck.json ⟨"a/%é", .down, env.now, "", none⟩).body := by
  intro rule env settings list find answer
  have hlist : list.Fetches "/api/v1/health" := ⟨rfl, by decide +kernel⟩
  have hfind : find.Fetches ("/api/v1/health/" ++ "a/%25%C3%a9") := ⟨rfl, by decide +kernel⟩
  have hspells : Percent.Spells "a/%25%C3%a9".toList (octets "a/%é") := by
    show Percent.Spells ['a', '/', '%', '2', '5', '%', 'C', '3', '%', 'a', '9']
      [0x61, 0x2F, 0x25, 0xC3, 0xA9]
    refine .plain (.inl rfl) (.plain (.inr (by decide)) ?_)
    exact .escaped (.inl rfl) (.inl rfl)
      (.escaped (.inr rfl) (.inl rfl) (.escaped (.inl rfl) (.inl rfl) .nil))
  have hchecks : (RulesStore.delivered settings.rules env).toOption.map
      (RulesStore.checksOf env.now) = some [⟨"a/%é", .down, env.now, "", none⟩] := by
    decide +kernel
  cases hpayload : RulesStore.delivered settings.rules env with
  | error e => simp [hpayload, Except.toOption] at hchecks
  | ok payload =>
    rw [hpayload] at hchecks
    replace hchecks := Option.some.inj hchecks
    obtain ⟨-, -, hlookup⟩ := lookup_listed hpayload hpayload hlist {}
    rw [hchecks] at hlookup
    obtain ⟨first, shown, hfirst, hretimed, hstatus, hbody⟩ :=
      (hlookup _ _ hspells find {} hfind).1 ⟨_, .head _, rfl⟩
    obtain rfl : first = ⟨"a/%é", .down, env.now, "", none⟩ := by simpa using hfirst.symm
    have hshown : shown = ⟨"a/%é", .down, env.now, "", none⟩ := by
      rcases hretimed with rfl | ⟨-, rfl⟩
      all_goals rfl
    rw [hshown] at hbody
    exact ⟨hlist, hfind, hspells, ⟨payload, rfl⟩, hstatus, hbody⟩

end Api

end ProbeGateway
