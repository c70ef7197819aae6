import ProbeGateway.Proofs.Health.Store
import ProbeGateway.Proofs.Health.Summary
import ProbeGateway.Proofs.Pipeline.Dispatch

/-!
# One payload, three views

The health checks of a payload are what its alerts show (`Alert.check?`), the check of a target is
the first of them, and fewer targets are down or unknown than rules fire or are pending
(`views_agree`).
-/

namespace ProbeGateway

/-! ## What an alert shows -/

namespace Alert

/-- The instant from which an alert has been active; now, if it names none or names the instant that
stands for "never". -/
def lastChecked (now : Instant) (a : Alert) : Instant :=
  match a.activeAt.map Instant.parseStrict with
  | some (.ok t) => if t = .never then now else t
  | _ => now

/-- A label that is not empty. -/
def label? (name : String) (a : Alert) : Option String :=
  if Sorted.find? name a.labels = some "" then none else Sorted.find? name a.labels

/-- The health check that an alert shows, if a label names its target. -/
def check? (now : Instant) (a : Alert) : Option HealthCheck :=
  match a.label? "target" with
  | none => none
  | some target => some
    { target := target
      status := .ofRuleState a.state
      lastChecked := a.lastChecked now
      probe := (Sorted.find? "probe" a.labels).getD ""
      instanceName := a.label? "instance" }

/-- An alert names a target. -/
def HasTarget (a : Alert) : Prop :=
  ∃ target, Sorted.find? "target" a.labels = some target ∧ target ≠ ""

variable {now : Instant} {a : Alert} {c : HealthCheck}

theorem status_of_check? (h : a.check? now = some c) : c.status = .ofRuleState a.state := by
  unfold check? at h
  split at h
  · cases h
  · cases h
    rfl

theorem HasTarget.check? (h : a.HasTarget) : ∃ c, a.check? now = some c := by
  obtain ⟨target, hfind, hne⟩ := h
  have hlabel : a.label? "target" = some target := by
    unfold label?
    rw [hfind, if_neg (by simpa using hne)]
  unfold Alert.check?
  rw [hlabel]
  exact ⟨_, rfl⟩

end Alert

namespace Rule

variable (now : Instant) (rule : Rule)

theorem lastChecked_alert :
    rule.alert.lastChecked now = (rule.activeAt.bind activeInstant?).getD now := by
  unfold Alert.lastChecked alert activeInstant?
  dsimp only
  cases rule.activeAt with
  | none => rfl
  | some s =>
    rw [Option.map_some, Option.bind_some]
    cases Instant.parseStrict s with
    | error e => rfl
    | ok t =>
      rw [Except.toOption, Option.filter_some]
      by_cases ht : t = .never
      · simp [ht]
      · simp [ht]

theorem label?_alert (name : String) : rule.alert.label? name = rule.label? name := by
  unfold Alert.label? label? alert
  cases Sorted.find? name rule.labels with
  | none => rfl
  | some s =>
    by_cases hs : s = ""
    · simp [hs, Option.filter]
    · simp [hs, Option.filter]

/-- A rule is the check that its alert shows. -/
theorem check?_alert : rule.alert.check? now = rule.check? now := by
  unfold Alert.check? check?
  rw [label?_alert, label?_alert, lastChecked_alert]
  cases rule.label? "target" with
  | none => rfl
  | some target => rfl

end Rule

/-! ## Counting -/

theorem HealthStatus.ofRuleState_eq_down {state : String} :
    ofRuleState state = .down ↔ state = "firing" := by
  unfold ofRuleState
  split
  · next h => exact iff_of_true rfl h
  · next h =>
    refine iff_of_false ?_ h
    split
    all_goals exact nofun

theorem HealthStatus.ofRuleState_eq_unknown {state : String} :
    ofRuleState state = .unknown ↔ state = "pending" := by
  unfold ofRuleState
  split
  · next h =>
    subst h
    decide
  · split
    · next h => exact iff_of_true rfl h
    · next h => exact iff_of_false nofun h

section Counting

variable {status : HealthStatus} {state : String}
  (hstate : ∀ s, HealthStatus.ofRuleState s = status ↔ s = state)
  (now : Instant) {alerts : List Alert}

include hstate

/-- A check with a status is shown by an alert in the state that has this status. -/
theorem countP_check?_le :
    (alerts.filterMap (Alert.check? now)).countP (·.status = status) ≤
      alerts.countP (·.state = state) := by
  -- An alert without a target shows no check, so this is no equality.
  rw [List.countP_filterMap]
  refine List.countP_mono_left fun a _ ha => ?_
  cases hc : a.check? now with
  | none => simp [hc] at ha
  | some c =>
    have hstatus : c.status = status := by simpa [hc] using ha
    rw [Alert.status_of_check? hc, hstate] at hstatus
    simpa using hstatus

/-- If all alerts name targets, each alert in the state shows a check with the status. -/
theorem countP_check?_eq (htarget : ∀ a ∈ alerts, a.HasTarget) :
    (alerts.filterMap (Alert.check? now)).countP (·.status = status) =
      alerts.countP (·.state = state) := by
  rw [List.countP_filterMap]
  refine List.countP_congr fun a ha => ?_
  obtain ⟨c, hc⟩ : ∃ c, a.check? now = some c := (htarget a ha).check?
  simp [hc, Alert.status_of_check? hc, hstate]

end Counting

/-! ## The three answers -/

namespace RulesStore

/-- A list of checks, a summary of alerts and an answer for each target describe the same rules at
one time. -/
structure Agree (now : Instant) (checks : List HealthCheck) (summary : AlertSummary)
    (check : String → Except Failure HealthCheck) : Prop where
  shown : checks = summary.alerts.filterMap (Alert.check? now)
  found (target : String) (c : HealthCheck) :
    check target = .ok c ↔
      c.target = target ∧ ∃ before after, checks = before ++ c :: after ∧
        ∀ d ∈ before, d.target ≠ target
  missing (target : String) :
    check target = .error (.notFound ("target not found: " ++ target)) ↔
      ∀ c ∈ checks, c.target ≠ target
  down_le : (HealthSummary.ofChecks checks).down ≤ summary.firing
  unknown_le : (HealthSummary.ofChecks checks).unknown ≤ summary.pending
  counts_eq : (∀ a ∈ summary.alerts, a.HasTarget) →
    (HealthSummary.ofChecks checks).down = summary.firing ∧
      (HealthSummary.ofChecks checks).unknown = summary.pending

variable (now : Instant) (payload : Json)

theorem checksOf_eq :
    checksOf now payload = (alertsOf payload).alerts.filterMap (Alert.check? now) := by
  unfold checksOf Rule.checks alertsOf
  rw [AlertSummary.ofAlerts_eq, List.filterMap_map]
  exact congrArg (List.filterMap · _) (funext fun rule => (rule.check?_alert now).symm)

theorem checkOf_eq_ok {target : String} {c : HealthCheck} :
    checkOf now target payload = .ok c ↔
      c.target = target ∧ ∃ before after, checksOf now payload = before ++ c :: after ∧
        ∀ d ∈ before, d.target ≠ target := by
  have hfind : (checksOf now payload).find? (·.target = target) = some c ↔
      c.target = target ∧ ∃ before after, checksOf now payload = before ++ c :: after ∧
        ∀ d ∈ before, d.target ≠ target := by
    rw [List.find?_eq_some_iff_append]
    simp only [decide_eq_true_eq, Bool.not_eq_true', decide_eq_false_iff_not, ne_eq]
  rw [← hfind]
  unfold checkOf
  split
  · next d hd => simp [hd]
  · next hd => simp [hd]

theorem checkOf_eq_notFound {target : String} :
    checkOf now target payload = .error (.notFound ("target not found: " ++ target)) ↔
      ∀ c ∈ checksOf now payload, c.target ≠ target := by
  have hfind : (checksOf now payload).find? (·.target = target) = none ↔
      ∀ c ∈ checksOf now payload, c.target ≠ target := by
    rw [List.find?_eq_none]
    simp only [decide_eq_true_eq, ne_eq]
  rw [← hfind]
  unfold checkOf
  split
  · next d hd => simp [hd]
  · next hd => simp [hd]

/-- The check of a target fails only because the target is absent. -/
theorem checkOf_eq_error {target : String} {e : Failure} :
    checkOf now target payload = .error e ↔
      e = .notFound ("target not found: " ++ target) ∧
        ∀ c ∈ checksOf now payload, c.target ≠ target := by
  rw [← checkOf_eq_notFound]
  constructor
  · intro h
    have he : e = .notFound ("target not found: " ++ target) := by
      unfold checkOf at h
      split at h
      · cases h
      · exact (Except.error.inj h).symm
    rw [← he]
    exact ⟨rfl, h⟩
  · rintro ⟨rfl, h⟩
    exact h

theorem agree_payload :
    Agree now (checksOf now payload) (alertsOf payload) fun target =>
      checkOf now target payload where
  shown := checksOf_eq now payload
  found _ _ := checkOf_eq_ok now payload
  missing _ := checkOf_eq_notFound now payload
  down_le := by
    rw [HealthSummary.ofChecks_eq, checksOf_eq]
    unfold alertsOf
    rw [AlertSummary.ofAlerts_eq]
    exact countP_check?_le (fun _ => HealthStatus.ofRuleState_eq_down) now
  unknown_le := by
    rw [HealthSummary.ofChecks_eq, checksOf_eq]
    unfold alertsOf
    rw [AlertSummary.ofAlerts_eq]
    exact countP_check?_le (fun _ => HealthStatus.ofRuleState_eq_unknown) now
  counts_eq htarget := by
    rw [HealthSummary.ofChecks_eq, checksOf_eq]
    unfold alertsOf at htarget ⊢
    rw [AlertSummary.ofAlerts_eq] at htarget ⊢
    exact ⟨countP_check?_eq (fun _ => HealthStatus.ofRuleState_eq_down) now htarget,
      countP_check?_eq (fun _ => HealthStatus.ofRuleState_eq_unknown) now htarget⟩

/-- **The three answers of a store describe the rules of one payload**, whatever was asked before
each of them. -/
theorem views_agree {backend : RulesBackend} {env : Surroundings} {payload : Json}
    (h : delivered backend env = .ok payload) (j j' : Journal) (j'' : String → Journal) :
    ∃ checks summary check,
      ((store backend env).checks.run j).1 = .ok checks ∧
      ((store backend env).alerts.run j').1 = .ok summary ∧
      (∀ target, (((store backend env).check target).run (j'' target)).1 = check target) ∧
      summary.alerts = (Rule.ofPayload payload).map Rule.alert ∧
      Agree env.now checks summary check := by
  refine ⟨checksOf env.now payload, alertsOf payload, fun target => checkOf env.now target payload,
    ?_, ?_, ?_, ?_, agree_payload env.now payload⟩
  · rw [checks_run, h]
    rfl
  · rw [alerts_run, h]
    rfl
  · intro target
    rw [check_run, h]
    rfl
  · unfold alertsOf
    rw [AlertSummary.ofAlerts_eq]

/-- Two groups carry one target, and the first of them is down. -/
theorem views_agree_duplicate :
    let first := "\x7b\"rules\":[7,\x7b\"labels\":\x7b\"target\":\"a\"\x7d," ++
      "\"state\":\"firing\"\x7d,\x7b\"state\":\"pending\"\x7d]\x7d"
    let second := "\x7b\"rules\":[\x7b\"labels\":\x7b\"target\":\"a\"\x7d\x7d]\x7d"
    let env : Surroundings :=
      { Surroundings.quiet with
        rules := .answered 200 (octets
          ("\x7b\"data\":\x7b\"groups\":[" ++ first ++ "," ++ second ++ "]\x7d\x7d")) }
    let backend : RulesBackend := ⟨some "http://[::1]:3000", "", "", 10⟩
    ∃ payload, delivered backend env = .ok payload ∧
      Rule.ofPayload payload =
        [⟨"", "firing", [("target", "a")], [], none, none⟩, ⟨"", "pending", [], [], none, none⟩,
          ⟨"", "", [("target", "a")], [], none, none⟩] ∧
      ∃ checks summary check,
        ((store backend env).checks.run {}).1 = .ok checks ∧
        ((store backend env).alerts.run {}).1 = .ok summary ∧
        (∀ target, (((store backend env).check target).run {}).1 = check target) ∧
        summary.alerts = (Rule.ofPayload payload).map Rule.alert ∧
        Agree env.now checks summary check ∧
        check "a" = .ok ⟨"a", .down, env.now, "", none⟩ := by
  intro first second env backend
  have hrules : (delivered backend env).toOption.map Rule.ofPayload =
      some [⟨"", "firing", [("target", "a")], [], none, none⟩,
        ⟨"", "pending", [], [], none, none⟩, ⟨"", "", [("target", "a")], [], none, none⟩] := by
    decide +kernel
  cases hpayload : delivered backend env with
  | error e => simp [hpayload, Except.toOption] at hrules
  | ok payload =>
    rw [hpayload] at hrules
    replace hrules := Option.some.inj hrules
    obtain ⟨checks, summary, check, hchecks, halerts, hcheck, hviews, hagree⟩ :=
      views_agree hpayload {} {} fun _ => {}
    have hlist : checks =
        [⟨"a", .down, env.now, "", none⟩, ⟨"a", .healthy, env.now, "", none⟩] := by
      rw [hagree.shown, hviews, hrules]
      decide +kernel
    exact ⟨payload, rfl, hrules, checks, summary, check, hchecks, halerts, hcheck, hviews, hagree,
      (hagree.found _ _).mpr ⟨rfl, [], _, hlist, nofun⟩⟩

end RulesStore

end ProbeGateway
