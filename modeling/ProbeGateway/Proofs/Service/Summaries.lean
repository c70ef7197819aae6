import ProbeGateway.Proofs.Health.Summary
import ProbeGateway.Proofs.Json.Written
import ProbeGateway.Proofs.Service.Endpoints
import ProbeGateway.Proofs.Service.Lookup

/-!
# Summaries that reach the client

Whatever rules the backend reports, the body of the list of checks is a summary that counts these
checks, and the body of the list of alerts one that counts these alerts (`summaries_count`). The
counts are read back from the text (`HealthSummary.Counts.parseWritten`,
`AlertSummary.Counts.parseWritten`).
-/

namespace ProbeGateway

open Json

/-! ## Texts of summaries -/

theorem HealthCheck.readable_json (c : HealthCheck) (levels : Nat) :
    Readable (levels + 1) c.json := by
  refine .object (List.forall_mem_append.mpr ⟨?_, .optionalMember levels _ _⟩)
  simp only [List.forall_mem_cons]
  exact ⟨.text levels _, .text levels _, .text levels _, .text levels _, nofun⟩

/-- A summary that counts checks is read back from its text. -/
theorem HealthSummary.Counts.parseWritten {s : HealthSummary} {checks : List HealthCheck}
    (h : s.Counts checks) (hfits : checks.length < wordLimit) :
    Json.parseWritten s.json.body = .ok s.json := by
  have htotal := h.total
  have hparts := h.adds_up
  have hchecks : Readable 126 (.array (s.checks.map HealthCheck.json)) :=
    .array (List.forall_mem_map.mpr fun c _ => c.readable_json 124)
  refine Readable.parseWritten (.object ?_)
  simp only [List.forall_mem_cons]
  exact ⟨.nat (by omega) _, .nat (by omega) _, .nat (by omega) _, .nat (by omega) _, hchecks, nofun⟩

theorem Alert.readable_mapJson (entries : Sorted String String) (levels : Nat) :
    Readable (levels + 1) (mapJson entries) :=
  .object (List.forall_mem_map.mpr fun entry _ => .text levels entry.2)

theorem Alert.readable_json (a : Alert) (levels : Nat) : Readable (levels + 2) a.json := by
  refine .object (List.forall_mem_append.mpr ⟨List.forall_mem_append.mpr
    ⟨?_, .optionalMember _ _ _⟩, .optionalMember _ _ _⟩)
  simp only [List.forall_mem_cons]
  exact ⟨.text _ _, .text _ _, readable_mapJson _ levels, readable_mapJson _ levels, nofun⟩

/-- A summary that counts alerts is read back from its text. -/
theorem AlertSummary.Counts.parseWritten {s : AlertSummary} {alerts : List Alert}
    (h : s.Counts alerts) (hfits : alerts.length < wordLimit) :
    Json.parseWritten s.json.body = .ok s.json := by
  have htotal := h.total
  have hparts := h.adds_up
  have halerts : Readable 126 (.array (s.alerts.map Alert.json)) :=
    .array (List.forall_mem_map.mpr fun a _ => a.readable_json 123)
  refine Readable.parseWritten (.object ?_)
  simp only [List.forall_mem_cons]
  exact ⟨.nat (by omega) _, .nat (by omega) _, .nat (by omega) _, .nat (by omega) _, halerts, nofun⟩

/-! ## Bodies -/

namespace Api

variable {settings : ApiSettings} {env : Surroundings} {payload : Json} {request : Request}

/-- All alerts of the payload are answered. -/
theorem serve_alerts (h : RulesStore.delivered settings.rules env = .ok payload)
    (hlist : request.Fetches alertsTemplate) (j : Journal) :
    let response := (((app settings).serve env request).run j).1
    response.status = 200 ∧ response.body = (RulesStore.alertsOf payload).json.body := by
  have hnames : Names request.path .alerts := by
    rw [hlist.path, show (RequestTarget.parse alertsTemplate).path = alertsTemplate by
      decide +kernel]
    exact .alerts
  have hresult : Question.alerts.result settings env =
      .ok (RulesStore.alertsOf payload).json := by
    rw [Question.result, h]
    rfl
  exact (serve_of_names hnames hlist.method j).1 _ hresult

/-- **Summaries count what they list.** The summary of checks holds them in order, with their number
and the number in each state, which make up all. Alerts that are put one by one into a summary that
was empty are held in order, with their number and the number in each state that is counted; the
rest of them are in other states. So it is with the summaries that are answered, whatever the
payload with the rules: the body of either is an object with the counts and what the payload lists,
and is read back as this object. -/
theorem summaries_count :
    (∀ checks : List HealthCheck, (HealthSummary.ofChecks checks).Counts checks) ∧
    (∀ alerts : List Alert, (alerts.foldl AlertSummary.push {}).Counts alerts) ∧
    ∀ (settings : ApiSettings) (env : Surroundings) (payload : Json),
      RulesStore.delivered settings.rules env = .ok payload →
      ∀ (request : Request) (j : Journal),
        let response := (((app settings).serve env request).run j).1
        let rules := Rule.ofPayload payload
        let check (c : HealthCheck) : Json :=
          .object ([("target", .text c.target), ("status", .text c.status.name),
            ("last_checked", .text c.lastChecked.text), ("probe", .text c.probe)] ++
            optionalMember "instance" c.instanceName)
        let texts (entries : Sorted String String) : Json :=
          .object (entries.map fun entry => (entry.1, .text entry.2))
        let alert (a : Alert) : Json :=
          .object ([("title", .text a.title), ("state", .text a.state),
            ("labels", texts a.labels), ("annotations", texts a.annotations)] ++
            optionalMember "activeAt" a.activeAt ++ optionalMember "value" a.value)
        (request.Fetches "/api/v1/health" → response.status = 200 ∧ ∃ s : HealthSummary,
          s.Counts (Rule.checks env.now rules) ∧
          let members : Json := .object [("total", .nat s.total), ("healthy", .nat s.healthy),
            ("down", .nat s.down), ("unknown", .nat s.unknown),
            ("checks", .array (s.checks.map check))]
          response.body = members.body ∧
          (rules.length < wordLimit → Json.parseWritten response.body = .ok members)) ∧
        (request.Fetches "/api/v1/alerts" → response.status = 200 ∧ ∃ s : AlertSummary,
          s.Counts (rules.map Rule.alert) ∧
          let members : Json := .object [("total", .nat s.total), ("firing", .nat s.firing),
            ("pending", .nat s.pending), ("normal", .nat s.normal),
            ("alerts", .array (s.alerts.map alert))]
          response.body = members.body ∧
          (rules.length < wordLimit → Json.parseWritten response.body = .ok members)) := by
  refine ⟨HealthSummary.counts_ofChecks, AlertSummary.counts_ofAlerts, ?_⟩
  intro settings env payload h request j response rules check texts alert
  refine ⟨fun hlist => ?_, fun hlist => ?_⟩
  · obtain ⟨hstatus, hbody⟩ := serve_checks h hlist j
    have hcounts := HealthSummary.counts_ofChecks (Rule.checks env.now rules)
    refine ⟨hstatus, _, hcounts, hbody, fun hfits => ?_⟩
    rw [show response.body = _ from hbody]
    exact hcounts.parseWritten (Nat.lt_of_le_of_lt (List.length_filterMap_le _ rules) hfits)
  · obtain ⟨hstatus, hbody⟩ := serve_alerts h hlist j
    have hcounts := AlertSummary.counts_ofAlerts (rules.map Rule.alert)
    refine ⟨hstatus, _, hcounts, hbody, fun hfits => ?_⟩
    rw [show response.body = _ from hbody]
    exact hcounts.parseWritten (by rwa [List.length_map])

/-- One rule fires, one is pending for a target, and one is in a state that is not counted. -/
theorem summaries_count_inactive :
    let rules := "\x7b\"state\":\"firing\"\x7d," ++
      "\x7b\"state\":\"pending\",\"labels\":\x7b\"target\":\"a\"\x7d\x7d," ++
      "\x7b\"state\":\"inactive\"\x7d"
    let env : Surroundings :=
      { Surroundings.quiet with
        rules := .answered 200 (octets
          ("\x7b\"data\":\x7b\"groups\":[\x7b\"rules\":[" ++ rules ++ "]\x7d]\x7d\x7d")) }
    let settings : ApiSettings := ⟨"*", ⟨some "http://[::1]:3000", "", "", 10⟩, ""⟩
    let checks := Request.to .get "/api/v1/health"
    let alerts := Request.to .get "/api/v1/alerts"
    let answer (request : Request) := (((app settings).serve env request).run {}).1
    checks.Fetches "/api/v1/health" ∧ alerts.Fetches "/api/v1/alerts" ∧
      (∃ payload, RulesStore.delivered settings.rules env = .ok payload) ∧
      (∃ s : HealthSummary, (answer checks).body = s.json.body ∧
        s.total = 1 ∧ s.healthy = 0 ∧ s.down = 0 ∧ s.unknown = 1) ∧
      ∃ s : AlertSummary, (answer alerts).body = s.json.body ∧
        s.total = 3 ∧ s.firing = 1 ∧ s.pending = 1 ∧ s.normal = 0 := by
  intro rules env settings checks alerts answer
  have hchecks : checks.Fetches "/api/v1/health" := ⟨rfl, by decide +kernel⟩
  have halerts : alerts.Fetches "/api/v1/alerts" := ⟨rfl, by decide +kernel⟩
  have hrules : (RulesStore.delivered settings.rules env).toOption.map Rule.ofPayload =
      some [⟨"", "firing", [], [], none, none⟩,
        ⟨"", "pending", [("target", "a")], [], none, none⟩,
        ⟨"", "inactive", [], [], none, none⟩] := by
    decide +kernel
  cases hpayload : RulesStore.delivered settings.rules env with
  | error e =>
    rw [hpayload] at hrules
    cases hrules
  | ok payload =>
    rw [hpayload] at hrules
    replace hrules := Option.some.inj hrules
    have hsummaries := summaries_count.2.2 settings env payload hpayload
    obtain ⟨-, shown, hshown, hshownBody, -⟩ := (hsummaries checks {}).1 hchecks
    obtain ⟨-, told, htold, htoldBody, -⟩ := (hsummaries alerts {}).2 halerts
    rw [hrules] at hshown htold
    refine ⟨hchecks, halerts, ⟨payload, rfl⟩, ⟨shown, hshownBody, ?_⟩, told, htoldBody, ?_⟩
    · exact ⟨hshown.total, hshown.healthy, hshown.down, hshown.unknown⟩
    · exact ⟨htold.total, htold.firing, htold.pending, htold.normal⟩

end Api

end ProbeGateway
