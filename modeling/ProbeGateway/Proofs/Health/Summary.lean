import ProbeGateway.Health.Alert

/-!
# What summaries count

A summary counts the list that it was made of: it holds the list in order, its length, and for each
state that it knows the number of elements in that state (`HealthSummary.Counts`,
`AlertSummary.Counts`). Checks are counted at one go (`HealthSummary.counts_ofChecks`). Alerts are
counted one by one: a summary of some alerts that gets one more is the summary of all of them
(`AlertSummary.Counts.push`), and so it is after any number of them (`AlertSummary.Counts.foldl`).
-/

namespace ProbeGateway

/-! ## Checks -/

namespace HealthSummary

/-- A summary holds checks in order, and counts them: all of them, and those in each state, which
make up all. -/
structure Counts (s : HealthSummary) (checks : List HealthCheck) : Prop where
  listed : s.checks = checks
  total : s.total = checks.length
  healthy : s.healthy = checks.countP (·.status = .healthy)
  down : s.down = checks.countP (·.status = .down)
  unknown : s.unknown = checks.countP (·.status = .unknown)
  adds_up : s.healthy + s.down + s.unknown = s.total

/-- The counters go on from where they stand. -/
theorem foldl_count (checks : List HealthCheck) (s : HealthSummary) :
    checks.foldl (fun s c => s.count c.status) s =
      { s with
        healthy := s.healthy + checks.countP (·.status = .healthy)
        down := s.down + checks.countP (·.status = .down)
        unknown := s.unknown + checks.countP (·.status = .unknown) } := by
  induction checks generalizing s with
  | nil => rfl
  | cons c checks ih =>
    rw [List.foldl_cons, ih]
    cases hc : c.status
    all_goals
      simp [count, hc, Nat.add_assoc, Nat.add_comm 1]

theorem ofChecks_eq (checks : List HealthCheck) :
    ofChecks checks = ⟨checks.length, checks.countP (·.status = .healthy),
      checks.countP (·.status = .down), checks.countP (·.status = .unknown), checks⟩ := by
  unfold ofChecks
  rw [foldl_count]
  simp only [Nat.zero_add]

/-- Every check is in one state. -/
theorem countP_add_countP (checks : List HealthCheck) :
    checks.countP (·.status = .healthy) + checks.countP (·.status = .down) +
      checks.countP (·.status = .unknown) = checks.length := by
  induction checks with
  | nil => rfl
  | cons c checks ih =>
    rw [List.countP_cons, List.countP_cons, List.countP_cons, List.length_cons, ← ih]
    cases hc : c.status
    all_goals
      simp
      omega

theorem counts_ofChecks (checks : List HealthCheck) : (ofChecks checks).Counts checks := by
  rw [ofChecks_eq]
  exact ⟨rfl, rfl, rfl, rfl, rfl, countP_add_countP checks⟩

end HealthSummary

/-! ## Alerts -/

/-- An alert is in a state that no summary counts. -/
def Alert.isUncounted (a : Alert) : Bool := a.state ∉ ["firing", "pending", "normal"]

namespace AlertSummary

/-- A summary holds alerts in order, and counts them: all of them, and those whose state is one of
three words; what is missing are those in any other state. -/
structure Counts (s : AlertSummary) (alerts : List Alert) : Prop where
  listed : s.alerts = alerts
  total : s.total = alerts.length
  firing : s.firing = alerts.countP (·.state = "firing")
  pending : s.pending = alerts.countP (·.state = "pending")
  normal : s.normal = alerts.countP (·.state = "normal")
  adds_up : s.firing + s.pending + s.normal + alerts.countP Alert.isUncounted = s.total

variable {s : AlertSummary} {alerts : List Alert}

theorem counts_empty : ({} : AlertSummary).Counts [] := ⟨rfl, rfl, rfl, rfl, rfl, rfl⟩

/-- One more alert is counted once, at its own state or at none. -/
theorem Counts.push (h : s.Counts alerts) (a : Alert) : (s.push a).Counts (alerts ++ [a]) where
  listed := by rw [AlertSummary.push, h.listed]
  total := by simp [AlertSummary.push, h.total]
  firing := by simp [AlertSummary.push, h.firing, List.countP_singleton]
  pending := by simp [AlertSummary.push, h.pending, List.countP_singleton]
  normal := by simp [AlertSummary.push, h.normal, List.countP_singleton]
  adds_up := by
    have hone : (if a.state = "firing" then 1 else 0) + (if a.state = "pending" then 1 else 0) +
        (if a.state = "normal" then 1 else 0) + (if a.isUncounted then 1 else 0) = 1 := by
      unfold Alert.isUncounted
      by_cases hfiring : a.state = "firing"
      · rw [hfiring]
        decide
      by_cases hpending : a.state = "pending"
      · rw [hpending]
        decide
      by_cases hnormal : a.state = "normal"
      · rw [hnormal]
        decide
      simp [hfiring, hpending, hnormal]
    have hbefore := h.adds_up
    rw [List.countP_append, List.countP_singleton, AlertSummary.push]
    dsimp only
    omega

/-- Any number of alerts are counted behind those that are counted already. -/
theorem Counts.foldl (h : s.Counts alerts) (more : List Alert) :
    (more.foldl AlertSummary.push s).Counts (alerts ++ more) := by
  induction more generalizing s alerts with
  | nil => rwa [List.append_nil]
  | cons a more ih =>
    rw [List.append_cons]
    exact ih (h.push a)

theorem counts_ofAlerts (alerts : List Alert) : (ofAlerts alerts).Counts alerts :=
  counts_empty.foldl alerts

theorem ofAlerts_eq (alerts : List Alert) :
    ofAlerts alerts = ⟨alerts.length, alerts.countP (·.state = "firing"),
      alerts.countP (·.state = "pending"), alerts.countP (·.state = "normal"), alerts⟩ := by
  have h := counts_ofAlerts alerts
  rw [mk.injEq, h.total, h.firing, h.pending, h.normal, h.listed]
  exact ⟨rfl, rfl, rfl, rfl, rfl⟩

end AlertSummary

end ProbeGateway
