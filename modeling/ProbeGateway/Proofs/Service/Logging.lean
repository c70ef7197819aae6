import ProbeGateway.Proofs.Backend.Answer
import ProbeGateway.Proofs.Health.Fetching
import ProbeGateway.Proofs.Pipeline.Logging
import ProbeGateway.Service.Inspection

/-!
# What handlers log

The handlers of both applications tell of backends and of profiles. What the service tells of its
own life (`Event.isOfService`) is told by none of them (`Api.app_logsOnly`,
`Inspection.app_logsOnly`), nor by the layers.
-/

namespace ProbeGateway

namespace Event

/-- Whether an event is told by the service of its own life, and not by what answers a request. -/
def isOfService (event : Event) : Bool := event.target = "health_api::api::server"

/-- An event is told by what answers requests. -/
def IsOfRequests (event : Event) : Prop := event.isOfService = false

theorem isOfRequests_rulesCallFailed (url : String) (e : Failure) :
    (rulesCallFailed url e).IsOfRequests := by
  simp [IsOfRequests, isOfService, target]

theorem isOfRequests_queryWarning (query warning : String) :
    (queryWarning query warning).IsOfRequests := by
  simp [IsOfRequests, isOfService, target]

theorem isOfRequests_profileStarted (seconds : Nat) (format : String) :
    (profileStarted seconds format).IsOfRequests := by
  simp [IsOfRequests, isOfService, target]

theorem isOfRequests_of_isOfLayers (event : Event) (h : event.isOfLayers = true) :
    event.IsOfRequests := by
  cases event
  all_goals first
    | exact absurd h Bool.false_ne_true
    | simp [IsOfRequests, isOfService, target]

end Event

/-! ## Backends -/

theorem RulesStore.logsOnly_fetch (backend : RulesBackend) (env : Surroundings) :
    Action.LogsOnly Event.IsOfRequests (fetch backend env) := by
  intro j
  have htraced : Traced backend env j ((fetch backend env).run j).2 (delivered backend env) :=
    traced_fetch j
  generalize delivered backend env = result at htraced
  cases htraced with
  | uncalled _ unchanged =>
    rw [unchanged]
    exact ⟨[], (List.append_nil _).symm, nofun⟩
  | brought _ _ events =>
    rw [events]
    exact ⟨[], (List.append_nil _).symm, nofun⟩
  | failed _ _ events tells =>
    refine ⟨_, events, fun event he => ?_⟩
    rw [List.mem_singleton.mp he, tells]
    exact Event.isOfRequests_rulesCallFailed _ _

theorem Query.logsOnly_run (base : String) (env : Surroundings) (expr : String) :
    Action.LogsOnly Event.IsOfRequests (run base env expr) := by
  intro j
  have htraced := traced_run base env expr j
  cases hresult : delivered base env with
  | error e => exact ⟨[], (htraced.silent e hresult).trans (List.append_nil _).symm, nofun⟩
  | ok outcome =>
    refine ⟨_, htraced.warned outcome hresult, fun event he => ?_⟩
    obtain ⟨w, -, rfl⟩ := List.mem_map.mp he
    exact Event.isOfRequests_queryWarning expr w

/-! ## The public application -/

theorem HealthStore.logsOnly_recorded {p : Event → Prop} {α β : Type}
    {query : Action (Except Failure α)} (h : Action.LogsOnly p query) (operation : String)
    (f : Except Failure α → β) :
    Action.LogsOnly p (query >>= fun result =>
      record operation result >>= fun _ => pure (f result)) := by
  refine .bind h fun result => ?_
  have hrecord : Action.LogsOnly p (record operation result) := .count _
  exact hrecord.map fun _ => f result

namespace Api

variable (settings : ApiSettings) (env : Surroundings)

theorem logsOnly_checks : Action.LogsOnly Event.IsOfRequests (checks settings env) := by
  refine .map (HealthStore.logsOnly_recorded ?_ "health_checks" _) _
  exact .map (RulesStore.logsOnly_fetch _ _) _

theorem logsOnly_check (target : String) :
    Action.LogsOnly Event.IsOfRequests (check settings env target) := by
  unfold check
  split
  · exact .pure _
  · refine .map (HealthStore.logsOnly_recorded ?_ "health_check_by_target" _) _
    exact .map (RulesStore.logsOnly_fetch _ _) _

theorem logsOnly_alerts : Action.LogsOnly Event.IsOfRequests (alerts settings env) := by
  refine .map (HealthStore.logsOnly_recorded ?_ "alerts" _) _
  exact .map (RulesStore.logsOnly_fetch _ _) _

theorem logsOnly_metric (expr : String) :
    Action.LogsOnly Event.IsOfRequests (metric settings env expr) := by
  unfold metric
  split
  · exact .pure _
  · exact .map (Query.logsOnly_run _ _ _) _

/-- No handler of the public application tells of the life of the service. -/
theorem app_logsOnly : (app settings).LogsOnly Event.IsOfRequests := by
  intro route hroute env incoming
  rcases List.mem_append.mp hroute with hmain | hprobe
  · simp only [List.mem_cons, List.not_mem_nil, or_false] at hmain
    rcases hmain with rfl | rfl | rfl | rfl | rfl | rfl
    · exact .map (logsOnly_checks settings env) _
    · exact .map (logsOnly_check settings env _) _
    · exact .map (logsOnly_check settings env _) _
    · exact .map (logsOnly_alerts settings env) _
    · exact .map (logsOnly_metric settings env _) _
    · exact .map (logsOnly_metric settings env _) _
  · obtain ⟨template, -, rfl⟩ := List.mem_map.mp hprobe
    exact .pure _

end Api

/-! ## The application for inspection -/

namespace Inspection

theorem logsOnly_profile (env : Surroundings) (incoming : Incoming) :
    Action.LogsOnly Event.IsOfRequests (profile env incoming) := by
  unfold profile
  split
  · exact .pure _
  · split
    · exact .map (.map (.log (Event.isOfRequests_profileStarted _ _)) _) _
    · exact .pure _

/-- Nor does any handler of the application for inspection. -/
theorem app_logsOnly : app.LogsOnly Event.IsOfRequests := by
  intro route hroute env incoming
  simp only [app, routes, List.mem_cons, List.not_mem_nil, or_false] at hroute
  rcases hroute with rfl | rfl | rfl
  · exact .silent fun _ => rfl
  · exact .silent fun _ => rfl
  · exact logsOnly_profile env incoming

end Inspection

end ProbeGateway
