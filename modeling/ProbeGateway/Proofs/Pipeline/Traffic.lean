import ProbeGateway.Proofs.Metrics.Conservation
import ProbeGateway.Proofs.Pipeline.Dispatch

/-!
# What handlers leave alone

The layers count the traffic and tell the story of a request; handlers count and log what they do
for it. An `Ordinary` step is put together from what handlers do. It leaves the traffic as it is
(`Ordinary.keepsTraffic`) and only adds to the log (`Ordinary.addsEvents`). What answers a request
is the handler of a route, or the refusal of its method (`handler_of_dispatch?`), and so what holds
of all routes holds of it. Up to the recording of its response a request adds nothing to the traffic
but a handler that broke off (`Dispatch.traffic_innermost`).
-/

namespace ProbeGateway

/-! ## Steps -/

/-- A step leaves the traffic as it is. -/
def Action.KeepsTraffic {α : Type} (x : Action α) : Prop :=
  ∀ j, (x.run j).2.metrics.traffic = j.metrics.traffic

namespace Action.KeepsTraffic

variable {α β : Type}

theorem pure (a : α) : Action.KeepsTraffic (Pure.pure a) := fun _ => rfl

/-- The second step starts from what the first one left. -/
theorem bind {x : Action α} {f : α → Action β} (hx : Action.KeepsTraffic x)
    (hf : ∀ a, Action.KeepsTraffic (f a)) : Action.KeepsTraffic (x >>= f) := by
  intro j
  rw [Action.run_bind, hf, hx]

end Action.KeepsTraffic

/-- A step leaves what is logged, and may log more. -/
def Action.AddsEvents {α : Type} (x : Action α) : Prop :=
  ∀ j, ∃ more, (x.run j).2.events = j.events ++ more

/-- A step put together from what handlers do: they log, note calls and count what is no traffic. -/
inductive Action.Ordinary : {α : Type} → Action α → Prop
  | pure {α : Type} (a : α) : Ordinary (Pure.pure a)
  | bind {α β : Type} {x : Action α} {f : α → Action β} (hx : Ordinary x)
      (hf : ∀ a, Ordinary (f a)) : Ordinary (x >>= f)
  | log (event : Event) : Ordinary (Journal.log event)
  | noteCall (call : Call) : Ordinary (Journal.noteCall call)
  | count {change : Metrics → Metrics} (h : ∀ m, (change m).traffic = m.traffic) :
      Ordinary (Journal.count change)

namespace Action.Ordinary

variable {α β : Type} {x : Action α}

theorem map (hx : Action.Ordinary x) (f : α → β) :
    Action.Ordinary (x >>= fun a => Pure.pure (f a)) := hx.bind fun a => pure (f a)

theorem keepsTraffic (hx : Action.Ordinary x) : Action.KeepsTraffic x := by
  induction hx with
  | pure a => exact .pure a
  | bind _ _ hx hf => exact hx.bind hf
  | log event => exact fun _ => rfl
  | noteCall call => exact fun _ => rfl
  | count h => exact fun j => h j.metrics

theorem addsEvents (hx : Action.Ordinary x) : Action.AddsEvents x := by
  induction hx with
  | pure a => exact fun j => ⟨[], (List.append_nil _).symm⟩
  | bind _ _ hx hf =>
    intro j
    obtain ⟨first, hfirst⟩ := hx j
    obtain ⟨second, hsecond⟩ := hf _ _
    rw [Action.run_bind]
    exact ⟨first ++ second, by rw [hsecond, hfirst, List.append_assoc]⟩
  | log event => exact fun j => ⟨[event], rfl⟩
  | noteCall call => exact fun j => ⟨[], (List.append_nil _).symm⟩
  | count h => exact fun j => ⟨[], (List.append_nil _).symm⟩

end Action.Ordinary

/-! ## The traffic up to the recording -/

/-- A handler broke off. -/
def Outcome.isPanic : Outcome → Bool
  | .answered _ => false
  | .panicked _ => true

/-- A handler was reached and broke off. -/
def Dispatch.recovers (d : Dispatch) (env : Surroundings) (j : Journal) : Bool :=
  d.incoming.request.method ≠ .options && (d.outcome env j).1.isPanic

/-- Up to its recording, all that a request adds to the traffic is a handler that broke off. -/
theorem Dispatch.traffic_innermost {d : Dispatch} (settings : PipelineSettings)
    {env : Surroundings} {j : Journal} (h : ∀ incoming, Action.KeepsTraffic (d.handler incoming)) :
    (d.innermost settings env j).2.metrics.traffic =
      (if d.recovers env j then j.metrics.addPanic else j.metrics).traffic := by
  by_cases hm : d.incoming.request.method = .options
  · have hrecovers : d.recovers env j = false := by simp [recovers, hm]
    rw [innermost_options settings env hm, hrecovers]
    rfl
  · have hinside : (d.outcome env j).2.metrics.traffic = j.metrics.traffic := h _ _
    cases ho : (d.outcome env j).1 with
    | answered r =>
      have hrecovers : d.recovers env j = false := by simp [recovers, ho, Outcome.isPanic]
      rw [innermost_answered settings env hm ho, hrecovers]
      exact hinside
    | panicked payload =>
      have hrecovers : d.recovers env j = true := by simp [recovers, hm, ho, Outcome.isPanic]
      rw [innermost_panicked settings env hm ho, hrecovers]
      exact congrArg Metrics.addPanic hinside

/-! ## Applications -/

namespace App

/-- The handlers of an application leave the traffic as it is. -/
def KeepsTraffic (app : App) : Prop :=
  ∀ route ∈ app.routes, ∀ env incoming, Action.KeepsTraffic (route.handler env incoming)

theorem mem_of_methodRoute? {method : Method} {routes : List Route} {route : Route}
    (h : methodRoute? method routes = some route) : route ∈ routes := by
  unfold methodRoute? at h
  rcases Option.or_eq_some_iff.mp h with h | ⟨-, h⟩
  · exact List.mem_of_find?_eq_some h
  · split at h
    · exact List.mem_of_find?_eq_some h
    · exact absurd h (by simp)

/-- The route that answers, by its method or for any, is one of those to choose from. -/
theorem mem_of_methodRoute?_or {method : Method} {routes : List Route} {route : Route}
    (h : (methodRoute? method routes).or (anyRoute? routes) = some route) : route ∈ routes := by
  rcases Option.or_eq_some_iff.mp h with h | ⟨-, h⟩
  · exact mem_of_methodRoute? h
  · exact List.mem_of_find?_eq_some h

theorem mem_of_mem_routesAt {app : App} {template : String} {route : Route}
    (h : route ∈ app.routesAt template) : route ∈ app.routes := (List.mem_filter.mp h).1

variable {app : App} {env : Surroundings} {request : Request} {d : Dispatch}

/-- What answers a request is the handler of a route, or refuses the method. -/
theorem handler_of_dispatch? (hd : app.dispatch? env request = some d) :
    (∃ route ∈ app.routes, d.handler = route.handler env) ∨ d.handler = notAllowed := by
  unfold dispatch? at hd
  obtain ⟨⟨template, parts⟩, -, rfl⟩ := Option.map_eq_some_iff.mp hd
  unfold dispatchAt
  cases hm : methodRoute? request.method (app.routesAt template) with
  | some route => exact .inl ⟨route, mem_of_mem_routesAt (mem_of_methodRoute? hm), rfl⟩
  | none =>
    cases ha : anyRoute? (app.routesAt template) with
    | some route =>
      exact .inl ⟨route, mem_of_mem_routesAt (List.mem_of_find?_eq_some ha), rfl⟩
    | none => exact .inr rfl

/-- So does whatever answers a request. -/
theorem KeepsTraffic.dispatch (h : app.KeepsTraffic) (hd : app.dispatch? env request = some d)
    (incoming : Incoming) : Action.KeepsTraffic (d.handler incoming) := by
  rcases handler_of_dispatch? hd with ⟨route, hroute, he⟩ | he
  · rw [he]
    exact h route hroute env incoming
  · rw [he]
    exact .pure _

/-- The handlers of an application take ordinary steps. -/
def Ordinary (app : App) : Prop :=
  ∀ route ∈ app.routes, ∀ env incoming, Action.Ordinary (route.handler env incoming)

theorem Ordinary.keepsTraffic (h : app.Ordinary) : app.KeepsTraffic :=
  fun route hroute env incoming => (h route hroute env incoming).keepsTraffic

theorem Ordinary.dispatch (h : app.Ordinary) (hd : app.dispatch? env request = some d)
    (incoming : Incoming) : Action.Ordinary (d.handler incoming) := by
  rcases handler_of_dispatch? hd with ⟨route, hroute, he⟩ | he
  · rw [he]
    exact h route hroute env incoming
  · rw [he]
    exact .pure _

theorem sample_ordinary (detail : String) (payload : PanicPayload) :
    (sample detail payload).Ordinary := by
  intro route hroute env incoming
  simp only [sample, List.mem_cons, List.not_mem_nil, or_false] at hroute
  rcases hroute with rfl | rfl | rfl | rfl | rfl
  all_goals exact .pure _

end App

end ProbeGateway
