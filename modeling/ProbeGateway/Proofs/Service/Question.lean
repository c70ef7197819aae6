import ProbeGateway.Proofs.Health.Store
import ProbeGateway.Proofs.Pipeline.Footprint
import ProbeGateway.Service.Api

/-!
# Questions to the backends

A main route puts a question to one of the backends (`Api.Question`), and answering it leaves a
footprint that is told by the question and by what the backends do (`Question.leaves_answer`).

1. A fetch of the rules is one `Attempt` to ask a backend, and none while no backend is configured
   (`RulesStore.leaves_fetch`); a query of the metrics always is one (`Query.leaves_run`). An attempt
   sends one call at most and leaves one mark.
2. A question of health leaves a mark of its own behind that of the attempt (`leaves_health`).
3. A question that lacks its target or its expression leaves nothing (`leaves_incomplete`).
-/

namespace ProbeGateway

/-- What is done to a success leaves the outcome as it was. -/
@[simp] theorem Metrics.outcome_map {α β : Type} (f : α → β) (result : Except Failure α) :
    outcome (result.map f) = outcome result := by
  cases result with
  | ok a => rfl
  | error e => rfl

/-! ## Attempts and queries -/

/-- An attempt to ask a backend. -/
structure Attempt where
  backend : Backend
  /-- The call that is sent; there is none to an address that cannot be called. -/
  sent : Option Call
  outcome : String
  seconds : Binary64

namespace Attempt

/-- The mark of an attempt. -/
def mark (a : Attempt) : Mark := .backendCall a.backend a.outcome a.seconds

/-- The calls of an attempt, if one is made. -/
def calls (attempt : Option Attempt) : List Call := (attempt.bind (·.sent)).toList

/-- The marks of an attempt, if one is made. -/
def marks (attempt : Option Attempt) : List Mark := (attempt.map mark).toList

theorem calls_some (a : Attempt) : calls (some a) = a.sent.toList := rfl

theorem marks_some (a : Attempt) : marks (some a) = [a.mark] := rfl

theorem leaves_record (backend : Backend) (sent : Option Call) (outcome : String)
    (seconds : Binary64) :
    Action.Leaves (Journal.count (.recordBackend backend.name backend.endpoint outcome seconds)) ()
      [] [mark ⟨backend, sent, outcome, seconds⟩] := .count fun _ => rfl

end Attempt

/-- The mark of a question of health that is counted, if one is. -/
def Mark.healthQueries (query : Option (String × String)) : List Mark :=
  (query.map fun (operation, outcome) => healthQuery operation outcome).toList

/-! ## Backends -/

namespace RulesStore

variable (backend : RulesBackend) (env : Surroundings)

/-- The call that is sent to an address. -/
def sent? (address : String) : Option Call :=
  (Url.parse? address).map fun url =>
    ⟨.rules, url, authorization? backend, env.rulesRedirects, env.rules.seen⟩

/-- The attempt that a fetch makes. -/
def attempt? : Option Attempt :=
  (base? backend).map fun base =>
    ⟨.rules, sent? backend env (Url.under base rulesPath),
      Metrics.outcome (delivered backend env), env.elapsed⟩

theorem leaves_call (address : String) :
    Action.Leaves (call backend env address) (receive (exchanged env address))
      (sent? backend env address).toList [] := by
  unfold call exchanged sent?
  cases Url.parse? address with
  | none => exact .pure _
  | some url => exact (Action.Leaves.noteCall _).map fun _ => receive env.rules

theorem leaves_logFailure (address : String) (result : Except Failure Json) :
    Action.Leaves (logFailure address result) () [] [] := by
  cases result with
  | ok payload => exact .pure _
  | error e => exact .log _

theorem leaves_fetch :
    Action.Leaves (fetch backend env) (delivered backend env)
      (Attempt.calls (attempt? backend env)) (Attempt.marks (attempt? backend env)) := by
  unfold fetch attempt?
  cases hbase : base? backend with
  | none =>
    rw [delivered, hbase]
    exact .pure _
  | some base =>
    have hdelivered : receive (exchanged env (Url.under base rulesPath)) = delivered backend env := by
      rw [delivered, hbase]
    have hcall := leaves_call backend env (Url.under base rulesPath)
    rw [hdelivered] at hcall
    rw [Option.map_some, Attempt.calls_some, Attempt.marks_some]
    dsimp only
    refine hcall.bind ?_ (List.append_nil _) rfl
    refine (Attempt.leaves_record _ _ _ _).bind ?_ rfl rfl
    exact (leaves_logFailure _ _).map fun _ => _

end RulesStore

namespace Query

variable (base : String) (env : Surroundings) (expr : String)

/-- What the exchange comes to: a call to an address that cannot be called has failed. -/
def exchanged : Exchange :=
  if (Url.parse? (Url.under base queryPath)).isSome then env.metrics else .failed false unusable

/-- The outcome that the backend delivers, or the failure to deliver one. -/
def delivered : Except Failure QueryOutcome := receive (exchanged base env)

/-- The call that is sent. -/
def sent? : Option Call :=
  (Url.parse? (Url.under base queryPath)).map fun url =>
    ⟨.metrics, url.withPairs [("query", expr)], none, env.metricsRedirects, env.metrics.seen⟩

/-- The attempt that a query makes. -/
def attempt : Attempt :=
  ⟨.metrics, sent? base env expr, Metrics.outcome (delivered base env), env.elapsed⟩

theorem leaves_call :
    Action.Leaves (call base env expr) (delivered base env) (sent? base env expr).toList [] := by
  unfold call delivered exchanged sent?
  cases Url.parse? (Url.under base queryPath) with
  | none => exact .pure _
  | some url => exact (Action.Leaves.noteCall _).map fun _ => receive env.metrics

theorem leaves_logWarnings (result : Except Failure QueryOutcome) :
    Action.Leaves (logWarnings expr result) () [] [] := by
  cases result with
  | error e => exact .pure _
  | ok outcome =>
    unfold logWarnings
    dsimp only
    induction outcome.warnings with
    | nil => exact .pure _
    | cons w rest ih => exact (Action.Leaves.log _).bind ih rfl rfl

theorem leaves_run :
    Action.Leaves (run base env expr) (delivered base env)
      (Attempt.calls (some (attempt base env expr)))
      (Attempt.marks (some (attempt base env expr))) := by
  rw [Attempt.calls_some, Attempt.marks_some, attempt]
  dsimp only
  refine (leaves_call base env expr).bind ?_ (List.append_nil _) rfl
  refine (Attempt.leaves_record _ _ _ _).bind ?_ rfl rfl
  exact (leaves_logWarnings expr _).map fun _ => _

end Query

/-- A query of health leaves its mark behind those of what it asks. -/
theorem HealthStore.leaves_recorded {α β : Type} {query : Action (Except Failure α)}
    {result : Except Failure α} {calls : List Call} {marks : List Mark}
    (hquery : Action.Leaves query result calls marks) (operation : String)
    (f : Except Failure α → β) :
    Action.Leaves (query >>= fun result => record operation result >>= fun _ => pure (f result))
      (f result) calls (marks ++ [.healthQuery operation (Metrics.outcome result)]) := by
  have hrecord : Action.Leaves (record operation result) () []
      [.healthQuery operation (Metrics.outcome result)] := .count fun _ => rfl
  exact hquery.bind (hrecord.map fun _ => f result) (List.append_nil _) rfl

namespace Api

/-! ## Questions -/

/-- What a request asks the backends for. -/
inductive Question
  | checks
  | check (target : String)
  | alerts
  | metric (expr : String)
deriving DecidableEq, Repr

namespace Question

/-- Whether a question names what it is about. -/
def isComplete : Question → Bool
  | check target => target ≠ ""
  | metric expr => expr ≠ ""
  | _ => true

/-- The backend that a question is put to. -/
def backend : Question → Backend
  | metric _ => .metrics
  | _ => .rules

/-- The operation that a question of health is counted under. -/
def operation? : Question → Option String
  | checks => some "health_checks"
  | check _ => some "health_check_by_target"
  | alerts => some "alerts"
  | metric _ => none

variable (settings : ApiSettings) (env : Surroundings)

/-- How a question is answered. -/
def answer : Question → Action (Except Failure Json)
  | checks => Api.checks settings env
  | check target => Api.check settings env target
  | alerts => Api.alerts settings env
  | metric expr => Api.metric settings env expr

/-- What a question is answered with. -/
def result : Question → Except Failure Json
  | checks => (RulesStore.delivered settings.rules env).map fun payload =>
    (HealthSummary.ofChecks (RulesStore.checksOf env.now payload)).json
  | check target =>
    if target = "" then .error (.invalidArgument "target parameter required")
    else ((RulesStore.delivered settings.rules env).bind
      (RulesStore.checkOf env.now target)).map HealthCheck.json
  | alerts => (RulesStore.delivered settings.rules env).map fun payload =>
    (RulesStore.alertsOf payload).json
  | metric expr =>
    if expr = "" then .error (.invalidArgument "metric parameter required")
    else (Query.delivered settings.metricsUrl env).map (metricJson expr)

/-- The attempt that a complete question comes to. -/
def attempt? (q : Question) : Option Attempt :=
  if q.isComplete then
    match q with
    | metric expr => some (Query.attempt settings.metricsUrl env expr)
    | _ => RulesStore.attempt? settings.rules env
  else none

/-- The operation and the outcome that a complete question of health is counted under. -/
def healthQuery? (q : Question) : Option (String × String) :=
  if q.isComplete then
    q.operation?.map fun operation => (operation, Metrics.outcome (q.result settings env))
  else none

/-- The calls that a question comes to. -/
def calls (q : Question) : List Call := Attempt.calls (q.attempt? settings env)

/-- The marks that a question leaves. -/
def marks (q : Question) : List Mark :=
  Attempt.marks (q.attempt? settings env) ++ Mark.healthQueries (q.healthQuery? settings env)

variable {settings env}

theorem attempt?_rules {q : Question} (hcomplete : q.isComplete = true) {operation : String}
    (hoperation : q.operation? = some operation) :
    q.attempt? settings env = RulesStore.attempt? settings.rules env := by
  unfold attempt?
  rw [if_pos hcomplete]
  cases q with
  | metric expr => exact absurd hoperation (by simp [operation?])
  | _ => rfl

/-- A question of health is answered with a view of what the store brought. -/
theorem leaves_health {α β : Type} {query : Action (Except Failure α)}
    {brought : Except Failure α} {operation : String} {q : Question}
    (hquery : Action.Leaves query brought
      (Attempt.calls (RulesStore.attempt? settings.rules env))
      (Attempt.marks (RulesStore.attempt? settings.rules env)))
    (hcomplete : q.isComplete = true) (hoperation : q.operation? = some operation)
    {f : Except Failure α → Except Failure β}
    (hf : Metrics.outcome (f brought) = Metrics.outcome brought) {g : β → Json}
    (hresult : (f brought).map g = q.result settings env) :
    Action.Leaves
      ((query >>= fun result => HealthStore.record operation result >>= fun _ =>
        pure (f result)) >>= fun result => pure (result.map g))
      (q.result settings env) (q.calls settings env) (q.marks settings env) := by
  have hquery? : q.healthQuery? settings env = some (operation, Metrics.outcome brought) := by
    unfold healthQuery?
    rw [if_pos hcomplete, hoperation, ← hresult, Metrics.outcome_map, hf]
    rfl
  unfold calls marks
  rw [attempt?_rules hcomplete hoperation, hquery?, ← hresult]
  exact (HealthStore.leaves_recorded hquery operation f).map (Except.map g)

theorem leaves_incomplete {q : Question} (h : q.isComplete = false) :
    Action.Leaves (q.answer settings env) (q.result settings env) [] [] := by
  cases q with
  | check target =>
    have ht : target = "" := by simpa [isComplete] using h
    subst ht
    exact .pure _
  | metric expr =>
    have he : expr = "" := by simpa [isComplete] using h
    subst he
    exact .pure _
  | checks => exact absurd h (by simp [isComplete])
  | alerts => exact absurd h (by simp [isComplete])

theorem leaves_complete {q : Question} (h : q.isComplete = true) :
    Action.Leaves (q.answer settings env) (q.result settings env) (q.calls settings env)
      (q.marks settings env) := by
  have hfetch := RulesStore.leaves_fetch settings.rules env
  cases q with
  | checks =>
    refine leaves_health (hfetch.map _) h rfl (f := Except.map HealthSummary.ofChecks)
      (Metrics.outcome_map _ _) ?_
    unfold result
    cases RulesStore.delivered settings.rules env with
    | ok payload => rfl
    | error e => rfl
  | check target =>
    have ht : target ≠ "" := of_decide_eq_true h
    have hanswer : (check target).answer settings env =
        (do return (← (store settings env).queryCheck target).map HealthCheck.json) := if_neg ht
    rw [hanswer]
    exact leaves_health (hfetch.map _) h rfl (f := id) rfl (if_neg ht).symm
  | alerts =>
    refine leaves_health (hfetch.map _) h rfl (f := id) rfl ?_
    unfold result
    cases RulesStore.delivered settings.rules env with
    | ok payload => rfl
    | error e => rfl
  | metric expr =>
    have he : expr ≠ "" := of_decide_eq_true h
    have hanswer : (metric expr).answer settings env =
        (do return (← Query.run settings.metricsUrl env expr).map (metricJson expr)) := if_neg he
    have hresult : (metric expr).result settings env =
        (Query.delivered settings.metricsUrl env).map (metricJson expr) := if_neg he
    unfold calls marks attempt? healthQuery?
    rw [hanswer, hresult, h]
    exact (Query.leaves_run settings.metricsUrl env expr).map (Except.map (metricJson expr))

/-- **Answering a question.** -/
theorem leaves_answer (q : Question) :
    Action.Leaves (q.answer settings env) (q.result settings env) (q.calls settings env)
      (q.marks settings env) := by
  cases h : q.isComplete with
  | true => exact leaves_complete h
  | false =>
    unfold calls marks attempt? healthQuery?
    rw [h]
    exact leaves_incomplete h

end Question

end Api

end ProbeGateway
