import ProbeGateway.Health.Store
import ProbeGateway.Proofs.Pipeline.Passage

/-!
# What a store answers

What the backend with the rules delivers depends on its address and on the exchange alone
(`RulesStore.delivered`). Each of the three answers of the store is a function of it, whatever was
done before (`checks_run`, `check_run`, `alerts_run`).
-/

namespace ProbeGateway

/-- What is recorded about a result does not change it. -/
theorem Action.recorded_run {α : Type} (first second : Action Unit) (result : α) (j : Journal) :
    ((first >>= fun _ => second >>= fun _ => pure result).run j).1 = result := rfl

/-- Whatever was done before, a store answers with these checks, with this summary of alerts, and
with this for each target. -/
structure HealthStore.Answers (store : HealthStore) (checks : List HealthCheck)
    (summary : AlertSummary) (check : String → Except Failure HealthCheck) : Prop where
  checks : ∀ j, (store.checks.run j).1 = .ok checks
  alerts : ∀ j, (store.alerts.run j).1 = .ok summary
  check : ∀ target j, ((store.check target).run j).1 = check target

namespace RulesStore

variable (backend : RulesBackend) (env : Surroundings)

/-- What the exchange comes to: a call to an address that cannot be called has failed. -/
def exchanged (address : String) : Exchange :=
  if (Url.parse? address).isSome then env.rules else .failed false unusable

/-- The payload that the backend delivers, or the failure to deliver one. -/
def delivered : Except Failure Json :=
  match base? backend with
  | none => .error (.unavailable "grafana not configured")
  | some base => receive (exchanged env (Url.under base rulesPath))

theorem call_run (address : String) (j : Journal) :
    ((call backend env address).run j).1 = receive (exchanged env address) := by
  unfold call exchanged
  cases Url.parse? address with
  | none => rfl
  | some url => rfl

theorem fetch_run (j : Journal) : ((fetch backend env).run j).1 = delivered backend env := by
  unfold fetch delivered
  cases base? backend with
  | none => rfl
  | some base =>
    dsimp only
    rw [Action.run_bind, Action.recorded_run, call_run]

variable (j : Journal)

theorem checks_run :
    ((store backend env).checks.run j).1 = (delivered backend env).map (checksOf env.now) :=
  congrArg (Except.map (checksOf env.now)) (fetch_run backend env j)

theorem check_run (target : String) :
    (((store backend env).check target).run j).1 =
      (delivered backend env).bind (checkOf env.now target) :=
  congrArg (Except.bind · (checkOf env.now target)) (fetch_run backend env j)

theorem alerts_run : ((store backend env).alerts.run j).1 = (delivered backend env).map alertsOf :=
  congrArg (Except.map alertsOf) (fetch_run backend env j)

variable {backend env} {payload : Json}

theorem answers_of_delivered (h : delivered backend env = .ok payload) :
    (store backend env).Answers (checksOf env.now payload) (alertsOf payload) fun target =>
      checkOf env.now target payload where
  checks j := by
    rw [checks_run, h]
    rfl
  alerts j := by
    rw [alerts_run, h]
    rfl
  check target j := by
    rw [check_run, h]
    rfl

end RulesStore

/-! ## Queries that are counted -/

namespace HealthStore

variable (store : HealthStore) (j : Journal)

theorem queryChecks_run :
    (store.queryChecks.run j).1 = (store.checks.run j).1.map HealthSummary.ofChecks := rfl

theorem queryCheck_run (target : String) :
    ((store.queryCheck target).run j).1 = ((store.check target).run j).1 := rfl

end HealthStore

end ProbeGateway
