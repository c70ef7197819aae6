import ProbeGateway.Health.Alert
import ProbeGateway.Proofs.Json.Record
import ProbeGateway.Proofs.Time.Reading

/-!
# Checks and alerts read back

Every check, every alert and every summary of them is read back from the text that is written for it
(`parseWith_body_json`): an optional field that is absent stays absent, and one that is empty stays
empty. A check needs an instant that can be represented, an alert needs maps, and a summary counts
of 64 bits, which need not agree with its list.

A check comes back as it was if a text can spell its instant. The nanoseconds of a leap second behind
any other second than the last of a minute are carried into the next second on the way
(`HealthCheck.carried`).
-/

namespace ProbeGateway

open Json

/-! ## Checks -/

theorem HealthStatus.takes_read (s : HealthStatus) (levels : Nat) :
    Takes (HealthStatus.read levels) s.json s := by
  refine takes_readCase ?_ levels
  cases s
  all_goals rfl

namespace HealthCheck

theorem takes_readInstant {t : Instant} (h : t.isRepresentable = true)
    (hspelled : t.isSpelled = true) : Takes readInstant (.text t.text) t := by
  refine takes_readTextWith fun rest => ?_
  rw [TimeReading.parseRelaxed_text h hspelled]

/-- A check that can exist: its instant can be represented. -/
def IsRepresentable (c : HealthCheck) : Prop := c.lastChecked.isRepresentable = true

/-- A check that a text can spell. -/
structure IsSpelled (c : HealthCheck) : Prop where
  representable : c.IsRepresentable
  spelled : c.lastChecked.isSpelled = true

/-- The check that the text of a check spells. -/
def carried (c : HealthCheck) : HealthCheck := { c with lastChecked := c.lastChecked.carried }

theorem isSpelled_carried {c : HealthCheck} (h : c.IsRepresentable) : c.carried.IsSpelled :=
  ⟨TimeReading.isRepresentable_carried h, TimeReading.isSpelled_carried h⟩

theorem json_carried {c : HealthCheck} (h : c.IsRepresentable) : c.carried.json = c.json := by
  have htext : c.carried.lastChecked.text = c.lastChecked.text := TimeReading.text_carried h
  unfold json
  rw [htext]
  rfl

/-- A check is what its text spells if a text can spell its instant. -/
theorem carried_eq_self_iff {c : HealthCheck} :
    c.carried = c ↔ c.lastChecked.isSpelled = true := by
  rw [← TimeReading.carried_eq_self_iff]
  constructor
  · exact congrArg HealthCheck.lastChecked
  · intro h
    unfold carried
    rw [h]

theorem takes_read {c : HealthCheck} (h : c.IsSpelled) (levels : Nat) :
    Takes (HealthCheck.read (levels + 1)) c.json c := by
  -- An absent member leaves no trace in the text, so its field must have been empty from the start.
  let required : Draft :=
    { target := c.target, status := c.status, lastChecked := c.lastChecked, probe := c.probe }
  have hfills : Fills (readField (fields levels)) {}
      (("target", .text c.target) :: ("status", c.status.json) ::
        ("last_checked", .text c.lastChecked.text) :: ("probe", .text c.probe) ::
        (optionalMember "instance" c.instanceName ++ []))
      (c.instanceName.elim required fun name => { required with instanceName := some name }) := by
    refine .field rfl rfl (takes_readText _) ?_
    refine .field rfl rfl (c.status.takes_read levels) ?_
    refine .field rfl rfl (takes_readInstant h.representable h.spelled) ?_
    refine .field rfl rfl (takes_readText _) ?_
    exact .optionalField rfl rfl c.instanceName (.nil _)
  rw [List.append_nil] at hfills
  refine (Takes.record hfills ?_ "HealthCheck").complete ?_
  all_goals
    obtain ⟨target, status, lastChecked, probe, _ | name⟩ := c
    all_goals rfl

end HealthCheck

namespace HealthSummary

/-- A summary that can exist: its counts fit 64 bits, and its checks can exist. -/
structure IsRepresentable (s : HealthSummary) : Prop where
  total : s.total < wordLimit
  healthy : s.healthy < wordLimit
  down : s.down < wordLimit
  unknown : s.unknown < wordLimit
  checks : ∀ c ∈ s.checks, c.IsRepresentable

/-- The summary that the text of a summary spells. -/
def carried (s : HealthSummary) : HealthSummary :=
  { s with checks := s.checks.map HealthCheck.carried }

theorem json_carried {s : HealthSummary} (h : s.IsRepresentable) : s.carried.json = s.json := by
  have hchecks : s.carried.checks.map HealthCheck.json = s.checks.map HealthCheck.json := by
    unfold carried
    rw [List.map_map]
    exact List.map_congr_left fun c hc => HealthCheck.json_carried (h.checks c hc)
  unfold json
  rw [hchecks]
  rfl

/-- A summary is what its text spells if a text can spell the instants of its checks. -/
theorem carried_eq_self_iff {s : HealthSummary} :
    s.carried = s ↔ ∀ c ∈ s.checks, c.lastChecked.isSpelled = true := by
  have hchecks : s.carried = s ↔ s.checks.map HealthCheck.carried = s.checks.map id := by
    rw [List.map_id]
    constructor
    · exact congrArg HealthSummary.checks
    · intro h
      unfold carried
      rw [h]
  rw [hchecks, List.map_inj_left]
  exact forall_congr' fun c => imp_congr_right fun _ => HealthCheck.carried_eq_self_iff

theorem takes_read {s : HealthSummary} (h : s.IsRepresentable) (levels : Nat) :
    Takes (HealthSummary.read (levels + 3)) s.json s.carried := by
  have hchecks : Takes (readList (levels + 2) HealthCheck.read)
      (.array (s.carried.checks.map HealthCheck.json)) s.carried.checks :=
    .list <| List.forall_mem_map.mpr fun c hc =>
      HealthCheck.takes_read (HealthCheck.isSpelled_carried (h.checks c hc)) levels
  have hfills : Fills (readField (fields (levels + 2))) {}
      [("total", .nat s.total), ("healthy", .nat s.healthy), ("down", .nat s.down),
        ("unknown", .nat s.unknown), ("checks", .array (s.carried.checks.map HealthCheck.json))]
      ⟨s.total, s.healthy, s.down, s.unknown, s.carried.checks⟩ := by
    refine .field rfl rfl (takes_readCountNumber h.total) ?_
    refine .field rfl rfl (takes_readCountNumber h.healthy) ?_
    refine .field rfl rfl (takes_readCountNumber h.down) ?_
    refine .field rfl rfl (takes_readCountNumber h.unknown) ?_
    exact .field rfl rfl hchecks (.nil _)
  rw [← json_carried h]
  exact (Takes.record hfills rfl "HealthSummary").complete rfl

end HealthSummary

/-! ## Alerts -/

namespace Alert

/-- An alert that can exist: its labels and annotations are maps. -/
structure IsRepresentable (a : Alert) : Prop where
  labels : Sorted.Increasing a.labels
  annotations : Sorted.Increasing a.annotations

theorem takes_read {a : Alert} (h : a.IsRepresentable) (levels : Nat) :
    Takes (Alert.read (levels + 2)) a.json a := by
  let required : Draft :=
    { title := a.title, state := a.state, labels := some a.labels,
      annotations := some a.annotations }
  let withStart : Draft :=
    a.activeAt.elim required fun start => { required with activeAt := some start }
  have hfills : Fills (readField (fields (levels + 1))) {}
      (("title", .text a.title) :: ("state", .text a.state) :: ("labels", mapJson a.labels) ::
        ("annotations", mapJson a.annotations) ::
        (optionalMember "activeAt" a.activeAt ++ (optionalMember "value" a.value ++ [])))
      (a.value.elim withStart fun value => { withStart with value := some value }) := by
    refine .field rfl rfl (takes_readText _) ?_
    refine .field rfl rfl (takes_readText _) ?_
    refine .field rfl rfl (takes_readTextMap h.labels levels) ?_
    refine .field rfl rfl (takes_readTextMap h.annotations levels) ?_
    refine .optionalField rfl rfl a.activeAt ?_
    refine .optionalField rfl ?_ a.value (.nil _)
    cases a.activeAt
    all_goals rfl
  have hjson : a.json = .object (("title", .text a.title) :: ("state", .text a.state) ::
      ("labels", mapJson a.labels) :: ("annotations", mapJson a.annotations) ::
      (optionalMember "activeAt" a.activeAt ++ (optionalMember "value" a.value ++ []))) := by
    unfold json
    rw [List.append_nil, List.append_assoc]
    rfl
  rw [hjson]
  refine (Takes.record hfills ?_ "Alert").complete ?_
  all_goals
    obtain ⟨title, state, labels, annotations, _ | start, _ | value⟩ := a
    all_goals rfl

end Alert

namespace AlertSummary

/-- A summary that can exist: its counts fit 64 bits, and its alerts can exist. -/
structure IsRepresentable (s : AlertSummary) : Prop where
  total : s.total < wordLimit
  firing : s.firing < wordLimit
  pending : s.pending < wordLimit
  normal : s.normal < wordLimit
  alerts : ∀ a ∈ s.alerts, a.IsRepresentable

theorem takes_read {s : AlertSummary} (h : s.IsRepresentable) (levels : Nat) :
    Takes (AlertSummary.read (levels + 4)) s.json s := by
  have halerts : Takes (readList (levels + 3) Alert.read) (.array (s.alerts.map Alert.json))
      s.alerts :=
    .list fun a ha => Alert.takes_read (h.alerts a ha) levels
  have hfills : Fills (readField (fields (levels + 3))) {}
      [("total", .nat s.total), ("firing", .nat s.firing), ("pending", .nat s.pending),
        ("normal", .nat s.normal), ("alerts", .array (s.alerts.map Alert.json))]
      ⟨s.total, s.firing, s.pending, s.normal, s.alerts⟩ := by
    refine .field rfl rfl (takes_readCountNumber h.total) ?_
    refine .field rfl rfl (takes_readCountNumber h.firing) ?_
    refine .field rfl rfl (takes_readCountNumber h.pending) ?_
    refine .field rfl rfl (takes_readCountNumber h.normal) ?_
    exact .field rfl rfl halerts (.nil _)
  exact (Takes.record hfills rfl "AlertSummary").complete rfl

end AlertSummary

/-! ## The round trip -/

/-- The text of a check is read as the check that it spells. -/
theorem HealthCheck.parse_body {c : HealthCheck} (h : c.IsRepresentable) :
    parseWith (HealthCheck.read maxLevels) c.json.body = .ok c.carried := by
  rw [← json_carried h]
  exact (takes_read (isSpelled_carried h) 126).parseWith

/-- **Checks, alerts and their summaries are read back** from the text that is written for them, a
check and a summary of checks just as they were if and only if a text can spell their instants, and
carried into the next second otherwise. -/
theorem parseWith_body_json :
    (∀ c : HealthCheck, c.IsRepresentable →
      parseWith (HealthCheck.read maxLevels) c.json.body = .ok c.carried ∧
      (c.carried = c ↔ c.lastChecked.isSpelled = true)) ∧
    (∀ s : HealthSummary, s.IsRepresentable →
      parseWith (HealthSummary.read maxLevels) s.json.body = .ok s.carried ∧
      (s.carried = s ↔ ∀ c ∈ s.checks, c.lastChecked.isSpelled = true)) ∧
    (∀ a : Alert, a.IsRepresentable → parseWith (Alert.read maxLevels) a.json.body = .ok a) ∧
    (∀ s : AlertSummary, s.IsRepresentable →
      parseWith (AlertSummary.read maxLevels) s.json.body = .ok s) :=
  ⟨fun _ h => ⟨HealthCheck.parse_body h, HealthCheck.carried_eq_self_iff⟩,
    fun _ h => ⟨(HealthSummary.takes_read h 124).parseWith, HealthSummary.carried_eq_self_iff⟩,
    fun _ h => (Alert.takes_read h 125).parseWith,
    fun _ h => (AlertSummary.takes_read h 123).parseWith⟩

/-- A check from half a second into a leap second behind second 30 is read back as one from half way
through second 31. -/
theorem parseWith_body_json_carried :
    let c : HealthCheck := ⟨"a", .healthy, ⟨30, 1500000000⟩, "", none⟩
    c.IsRepresentable ∧ parseWith (HealthCheck.read maxLevels) c.json.body ≠ .ok c := by
  intro c
  have h : c.IsRepresentable := by
    show Instant.isRepresentable _ = true
    decide
  refine ⟨h, ?_⟩
  rw [HealthCheck.parse_body h, ne_eq, Except.ok.injEq,
    HealthCheck.carried_eq_self_iff]
  decide

/-- A leap second of the year before zero, control characters, empty texts that are present, keys in
order and the greatest count are read back. -/
theorem parseWith_body_json_leapSecond :
    let checks : HealthSummary := ⟨wordLimit - 1, 0, 7, 0,
      [⟨"\"\\\x01/é", .unknown, ⟨-62167219201, 1500000000⟩, "", some ""⟩]⟩
    let alerts : AlertSummary := ⟨0, 3, 0, 0,
      [⟨"", "firing", [("", "\n"), ("b", "")], [], some "", none⟩]⟩
    (checks.IsRepresentable ∧
      parseWith (HealthSummary.read maxLevels) checks.json.body = .ok checks) ∧
    (alerts.IsRepresentable ∧
      parseWith (AlertSummary.read maxLevels) alerts.json.body = .ok alerts) := by
  intro checks alerts
  have hchecks : checks.IsRepresentable := by
    refine ⟨by decide, by decide, by decide, by decide, fun c hc => ?_⟩
    rw [List.mem_singleton.mp hc]
    show Instant.isRepresentable _ = true
    decide
  have halerts : alerts.IsRepresentable := by
    refine ⟨by decide, by decide, by decide, by decide, fun a ha => ?_⟩
    rw [List.mem_singleton.mp ha]
    refine ⟨List.pairwise_cons.mpr ⟨fun entry hentry => ?_, List.pairwise_singleton _ _⟩,
      Sorted.increasing_nil⟩
    rw [List.mem_singleton.mp hentry]
    show "" < "b"
    decide +kernel
  obtain ⟨-, hsummary, -, halertSummary⟩ := parseWith_body_json
  obtain ⟨hread, hsame⟩ := hsummary _ hchecks
  have hspelled : ∀ c ∈ checks.checks, c.lastChecked.isSpelled = true := by decide
  refine ⟨⟨hchecks, ?_⟩, halerts, halertSummary _ halerts⟩
  rw [hread, hsame.mpr hspelled]

end ProbeGateway
