import ProbeGateway.Proofs.Pipeline.Story

/-!
# Which events are logged

A step logs only certain events (`Action.LogsOnly`) if it leaves the log as it was and puts none but
these behind it. So do steps one after the other (`LogsOnly.bind`, `LogsOnly.forM`).

An application logs only what its handlers log, and what the layers say of a request
(`App.LogsOnly.serve`). That is also true of a request whose opening is logged ahead of it
(`App.LogsOnly.resume`, `App.logsOnly_opening`).
-/

namespace ProbeGateway

/-- A step logs only events with a property, behind all that are there. -/
def Action.LogsOnly (p : Event → Prop) {α : Type} (x : Action α) : Prop :=
  ∀ j, ∃ more, (x.run j).2.events = j.events ++ more ∧ ∀ event ∈ more, p event

namespace Action.LogsOnly

variable {p : Event → Prop} {α β : Type} {x : Action α}

/-- A step that does not touch the log. -/
theorem silent (h : ∀ j, (x.run j).2.events = j.events) : Action.LogsOnly p x :=
  fun j => ⟨[], (h j).trans (List.append_nil _).symm, nofun⟩

theorem pure (a : α) : Action.LogsOnly p (Pure.pure a) := silent fun _ => rfl

theorem count (change : Metrics → Metrics) : Action.LogsOnly p (Journal.count change) :=
  silent fun _ => rfl

theorem log {event : Event} (h : p event) : Action.LogsOnly p (Journal.log event) :=
  fun _ => ⟨[event], rfl, fun _ he => List.mem_singleton.mp he ▸ h⟩

theorem bind {f : α → Action β} (hx : Action.LogsOnly p x) (hf : ∀ a, Action.LogsOnly p (f a)) :
    Action.LogsOnly p (x >>= f) := by
  intro j
  obtain ⟨first, hfirst, hp⟩ := hx j
  obtain ⟨second, hsecond, hp'⟩ := hf (x.run j).1 (x.run j).2
  refine ⟨first ++ second, ?_, fun event he => ?_⟩
  · rw [Action.run_bind, hsecond, hfirst, List.append_assoc]
  · rcases List.mem_append.mp he with he | he
    · exact hp event he
    · exact hp' event he

theorem map (hx : Action.LogsOnly p x) (f : α → β) :
    Action.LogsOnly p (x >>= fun a => Pure.pure (f a)) := hx.bind fun a => pure (f a)

theorem forM {f : α → Action Unit} {as : List α} (h : ∀ a ∈ as, Action.LogsOnly p (f a)) :
    Action.LogsOnly p (as.forM f) := by
  induction as with
  | nil => exact pure ()
  | cons a as ih => exact (h a (.head _)).bind fun _ => ih fun b hb => h b (.tail _ hb)

theorem addsEvents (hx : Action.LogsOnly p x) : Action.AddsEvents x := fun j =>
  have ⟨more, hmore, _⟩ := hx j
  ⟨more, hmore⟩

end Action.LogsOnly

namespace App

variable {p : Event → Prop} {app : App} {env : Surroundings} {request : Request} {d : Dispatch}
  {j : Journal}

/-- The handlers of an application log only events with a property. -/
def LogsOnly (p : Event → Prop) (app : App) : Prop :=
  ∀ route ∈ app.routes, ∀ env incoming, Action.LogsOnly p (route.handler env incoming)

theorem LogsOnly.dispatch (h : app.LogsOnly p) (hd : app.dispatch? env request = some d)
    (incoming : Incoming) : Action.LogsOnly p (d.handler incoming) := by
  rcases handler_of_dispatch? hd with ⟨route, hroute, he⟩ | he
  · rw [he]
    exact h route hroute env incoming
  · rw [he]
    exact .pure _

/-- What a handler logs of a request is what it may log. -/
theorem of_mem_logged (h : ∀ incoming, Action.LogsOnly p (d.handler incoming)) {event : Event}
    (he : event ∈ d.logged env j) : p event := by
  unfold Dispatch.logged at he
  split at he
  · cases he
  · obtain ⟨more, hmore, hp⟩ := h (Layer.traced env d.incoming) (Layer.opened env d.incoming j)
    have hevents : (d.outcome env j).2.events =
        (Layer.opened env d.incoming j).events ++ more := hmore
    rw [hevents, List.drop_left] at he
    exact hp event he

-- The layers may log whatever is theirs.
variable (hlayers : ∀ event : Event, event.isOfLayers = true → p event)

include hlayers

theorem logsOnly_opening (event : Event) (he : event ∈ app.opening env request) : p event := by
  refine hlayers event ?_
  unfold opening at he
  split at he
  · cases he
  · split at he
    · simp only [Layer.opening, List.mem_cons, List.not_mem_nil, or_false] at he
      rcases he with rfl | rfl
      · rfl
      · rfl
    · cases he

/-- **An application logs what its handlers log, and what its layers say.** -/
theorem LogsOnly.serve (h : app.LogsOnly p) : Action.LogsOnly p (app.serve env request) := by
  intro j
  cases hd : app.dispatch? env request with
  | none =>
    rw [serve_run_none hd]
    exact ⟨[], (List.append_nil _).symm, nofun⟩
  | some d =>
    cases hg : d.group with
    | bare =>
      rw [serve_run_bare hd hg]
      exact h.dispatch hd d.incoming j
    | main =>
      have hhandler := h.dispatch hd
      rw [events_serve_main hd hg fun incoming => (hhandler incoming).addsEvents,
        List.append_assoc (_ ++ _), List.append_assoc]
      refine ⟨_, rfl, fun event he => ?_⟩
      rcases List.mem_append.mp he with hopening | he
      · refine hlayers event ?_
        simp only [Layer.opening, List.mem_cons, List.not_mem_nil, or_false] at hopening
        rcases hopening with rfl | rfl
        · rfl
        · rfl
      rcases List.mem_append.mp he with hinside | hend
      · rcases List.mem_append.mp hinside with hlogged | hcomplaint
        · exact of_mem_logged hhandler hlogged
        · exact hlayers event (Layer.isOfLayers_complaint event hcomplaint)
      · rw [List.mem_singleton.mp hend]
        exact hlayers _ rfl

/-- A request whose opening is logged ahead logs a part of what it would log otherwise. -/
theorem LogsOnly.resume (h : app.LogsOnly p) : Action.LogsOnly p (app.resume env request) := by
  intro j
  have hserve : Action.LogsOnly p (app.serve env request) := h.serve hlayers
  obtain ⟨more, hmore, hp⟩ := hserve { j with events := [] }
  have hlater : ((app.resume env request).run j).2.events =
      j.events ++ (((app.serve env request).run { j with events := [] }).2.events.drop
        (app.opening env request).length) := rfl
  refine ⟨more.drop (app.opening env request).length, ?_, fun event he => ?_⟩
  · rw [hlater, hmore, List.nil_append]
  · exact hp event (List.mem_of_mem_drop he)

end App

end ProbeGateway
