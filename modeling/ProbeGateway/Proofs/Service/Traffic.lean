import ProbeGateway.Proofs.Pipeline.Traffic
import ProbeGateway.Service.Api

/-!
# The handlers of the public application

They count health queries and the calls they make to backends, log what came of these, and do
nothing else (`app_ordinary`). In particular they leave the traffic to the layers
(`app_keepsTraffic`).
-/

namespace ProbeGateway

/-! ## Backends -/

/-- The calls of backends are counted on their own. -/
theorem ordinary_recordBackend (backend endpoint outcome : String) (seconds : Binary64) :
    Action.Ordinary (Journal.count (.recordBackend backend endpoint outcome seconds)) :=
  .count fun _ => rfl

namespace RulesStore

variable (backend : RulesBackend) (env : Surroundings)

theorem ordinary_call (address : String) : Action.Ordinary (call backend env address) := by
  unfold call
  split
  · exact .pure _
  · exact .map (.noteCall _) _

theorem ordinary_logFailure (address : String) (result : Except Failure Json) :
    Action.Ordinary (logFailure address result) := by
  cases result with
  | ok payload => exact .pure _
  | error e => exact .log _

theorem ordinary_fetch : Action.Ordinary (fetch backend env) := by
  unfold fetch
  split
  · exact .pure _
  · refine .bind (ordinary_call backend env _) fun result => ?_
    refine .bind (ordinary_recordBackend _ _ _ _) fun _ => ?_
    exact .map (ordinary_logFailure _ result) _

end RulesStore

namespace Query

theorem ordinary_logWarnings (expr : String) (result : Except Failure QueryOutcome) :
    Action.Ordinary (logWarnings expr result) := by
  cases result with
  | error e => exact .pure _
  | ok outcome =>
    unfold logWarnings
    dsimp only
    induction outcome.warnings with
    | nil => exact .pure _
    | cons w rest ih => exact .bind (.log _) fun _ => ih

theorem ordinary_run (base : String) (env : Surroundings) (expr : String) :
    Action.Ordinary (run base env expr) := by
  have hcall : Action.Ordinary (call base env expr) := by
    unfold call
    split
    · exact .pure _
    · exact .map (.noteCall _) _
  refine .bind hcall fun result => ?_
  refine .bind (ordinary_recordBackend _ _ _ _) fun _ => ?_
  exact .map (ordinary_logWarnings expr result) _

end Query

/-! ## Answers -/

/-- Health queries are counted on their own. -/
theorem HealthStore.ordinary_recorded {α β : Type} {query : Action (Except Failure α)}
    (hquery : Action.Ordinary query) (operation : String) (f : Except Failure α → β) :
    Action.Ordinary (query >>= fun result =>
      record operation result >>= fun _ => pure (f result)) := by
  refine .bind hquery fun result => ?_
  have hrecord : Action.Ordinary (record operation result) := .count fun _ => rfl
  exact .map hrecord fun _ => f result

namespace Api

variable (settings : ApiSettings) (env : Surroundings)

theorem ordinary_checks : Action.Ordinary (checks settings env) := by
  refine .map (HealthStore.ordinary_recorded ?_ "health_checks" _) _
  exact .map (RulesStore.ordinary_fetch _ _) _

theorem ordinary_check (target : String) : Action.Ordinary (check settings env target) := by
  unfold check
  split
  · exact .pure _
  · refine .map (HealthStore.ordinary_recorded ?_ "health_check_by_target" _) _
    exact .map (RulesStore.ordinary_fetch _ _) _

theorem ordinary_alerts : Action.Ordinary (alerts settings env) := by
  refine .map (HealthStore.ordinary_recorded ?_ "alerts" _) _
  exact .map (RulesStore.ordinary_fetch _ _) _

theorem ordinary_metric (expr : String) : Action.Ordinary (metric settings env expr) := by
  unfold metric
  split
  · exact .pure _
  · exact .map (Query.ordinary_run _ _ _) _

/-- The handlers of the public application take ordinary steps. -/
theorem app_ordinary : (app settings).Ordinary := by
  intro route hroute env incoming
  rcases List.mem_append.mp hroute with hmain | hprobe
  · simp only [List.mem_cons, List.not_mem_nil, or_false] at hmain
    rcases hmain with rfl | rfl | rfl | rfl | rfl | rfl
    · exact .map (ordinary_checks settings env) _
    · exact .map (ordinary_check settings env _) _
    · exact .map (ordinary_check settings env _) _
    · exact .map (ordinary_alerts settings env) _
    · exact .map (ordinary_metric settings env _) _
    · exact .map (ordinary_metric settings env _) _
  · obtain ⟨template, -, rfl⟩ := List.mem_map.mp hprobe
    exact .pure _

/-- No handler of the public application touches what the layers count. -/
theorem app_keepsTraffic : (app settings).KeepsTraffic := (app_ordinary settings).keepsTraffic

end Api

end ProbeGateway
