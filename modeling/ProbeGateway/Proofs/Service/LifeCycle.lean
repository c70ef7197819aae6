import ProbeGateway.Proofs.Service.Stopping
import ProbeGateway.Service.LifeCycle

/-!
# From the start of the service to its end

1. Whether both listeners can be bound is told by their addresses (`Bindable`); otherwise there is
   one fault that is met first (`Refused`). Either decides what the start tells (`start_of_bindable`,
   `start_of_firstFault?`).
2. However the tasks take turns, from bound listeners to the return of the server (`life_cycle`), it
   tells one story among what is logged of requests (`story`), and answers the requests that finish
   in time.
3. Given circumstances are lived through in one such way (`run_path`).
-/

namespace ProbeGateway.Service

open Server

/-! ## Binding -/

/-- Both listeners can be bound: both addresses are free, also beside each other. -/
structure Bindable (config : Config) (bindFault? : SocketAddress → Option BindFault) : Prop where
  api : bindFault? config.apiHost = none
  debug : bindFault? config.debugHost = none
  apart : config.apiHost.collides config.debugHost = false

/-- A fault is the first that is met when the listeners are bound, the public one first. -/
inductive Refused (config : Config) (bindFault? : SocketAddress → Option BindFault) :
    BindFault → Prop
  | api {fault : BindFault} (h : bindFault? config.apiHost = some fault) :
    Refused config bindFault? fault
  | debug {fault : BindFault} (hapi : bindFault? config.apiHost = none)
      (h : bindFault? config.debugHost = some fault) :
    Refused config bindFault? fault
  | taken (hapi : bindFault? config.apiHost = none) (hdebug : bindFault? config.debugHost = none)
      (h : config.apiHost.collides config.debugHost = true) :
    Refused config bindFault? .addressInUse

variable {config : Config} {bindFault? : SocketAddress → Option BindFault}

theorem firstFault?_of_bindable (h : Bindable config bindFault?) :
    firstFault? config.service bindFault? = none := by
  unfold firstFault?
  show ((bindFault? config.apiHost).or (bindFault? config.debugHost)).or _ = none
  rw [h.api, h.debug]
  exact if_neg (Bool.eq_false_iff.mp h.apart)

theorem exists_refused (h : ¬ Bindable config bindFault?) :
    ∃ fault, Refused config bindFault? fault ∧
      firstFault? config.service bindFault? = some fault := by
  unfold firstFault?
  show ∃ fault, Refused config bindFault? fault ∧
    ((bindFault? config.apiHost).or (bindFault? config.debugHost)).or
      (if config.apiHost.collides config.debugHost then some .addressInUse else none) = some fault
  cases hapi : bindFault? config.apiHost with
  | some fault => exact ⟨fault, .api hapi, rfl⟩
  | none =>
    cases hdebug : bindFault? config.debugHost with
    | some fault => exact ⟨fault, .debug hapi hdebug, rfl⟩
    | none =>
      cases hapart : config.apiHost.collides config.debugHost with
      | false => exact absurd ⟨hapi, hdebug, hapart⟩ h
      | true => exact ⟨_, .taken hapi hdebug hapart, rfl⟩

/-! ## The start -/

/-- The warning that there is no backend to ask for alert rules. -/
def missing (config : Config) : List Event :=
  if config.rules.url = none then [.rulesUrlMissing] else []

/-- What is told up to the time at which both listeners are bound. -/
def opening (config : Config) : List Event :=
  missing config ++
    [.apiListening config.apiHost.text, .debugListening config.debugHost.text]

theorem warnMissing_run (j : Journal) :
    (warnMissing config.service).run j =
      ((), { j with events := j.events ++ missing config }) := by
  unfold warnMissing missing
  show (if config.rules.url.isNone = true then _ else _ : Action Unit).run j = _
  cases config.rules.url with
  | none => rfl
  | some url =>
    rw [if_neg (by simp), if_neg (by simp), List.append_nil]
    rfl

theorem start_of_bindable (h : Bindable config bindFault?) (j : Journal) :
    (start config.service bindFault?).run j =
      (.ok (), { j with events := j.events ++ opening config }) := by
  unfold start opening
  rw [firstFault?_of_bindable h, Action.run_bind, warnMissing_run, ← List.append_assoc]
  show (_, { j with events := ((j.events ++ missing config) ++ [_]) ++ [_] }) = _
  rw [List.append_assoc]
  rfl

theorem start_of_firstFault? {fault : BindFault}
    (h : firstFault? config.service bindFault? = some fault) (j : Journal) :
    (start config.service bindFault?).run j =
      (.error fault, { j with events := j.events ++ missing config }) := by
  unfold start
  rw [h, Action.run_bind, warnMissing_run]
  rfl

theorem missing_of_service : (missing config).filter Event.isOfService = missing config := by
  refine List.filter_eq_self.mpr fun event he => ?_
  unfold missing at he
  split at he
  · rw [List.mem_singleton.mp he]
    exact decide_eq_true rfl
  · cases he

theorem told_opening (j : Journal) :
    Told (opening config) j { j with events := j.events ++ opening config } := by
  refine ⟨opening config, rfl, ?_⟩
  rw [opening, List.filter_append, missing_of_service]
  refine congrArg (missing config ++ ·) (List.filter_eq_self.mpr fun event he => ?_)
  rcases List.mem_cons.mp he with rfl | he
  · exact decide_eq_true rfl
  · rw [List.mem_singleton.mp he]
    exact decide_eq_true rfl

/-! ## The life -/

section Life

variable {Fault : Type}

/-- A request in flight at a signal is finished within the time that is left to it. -/
def FinishesInTime (config : Config) (before : Server Fault) (f : Flight) : Prop :=
  ∃ t, f.readyAt = some t ∧ t ≤ before.now + config.shutdownTimeout * 1000

theorem isReady_limit_iff {before : Server Fault} {f : Flight} :
    isReady (before.limit config.service) f = true ↔ FinishesInTime config before f :=
  isReady_iff

instance (before : Server Fault) (f : Flight) : Decidable (FinishesInTime config before f) :=
  decidable_of_iff _ isReady_limit_iff

theorem isReady_limit (before : Server Fault) :
    isReady (before.limit config.service) = fun f => decide (FinishesInTime config before f) :=
  funext fun _ => Bool.eq_iff_iff.mpr (isReady_limit_iff.trans decide_eq_true_iff.symm)

/-- What the service tells of its life, in order. -/
def story (config : Config) (before : Server Fault) : List Event :=
  opening config ++ [.signalReceived, .drainStarted config.shutdownTimeout] ++
    (if before.pending.all (FinishesInTime config before ·) then [] else [.drainTimedOut]) ++
    [.stopped]

theorem story_eq (before : Server Fault) :
    opening config ++ (notices config.service ++ cutOff config.service before ++ [.stopped]) =
      story config before := by
  have hseconds : config.service.drainMillis / 1000 = config.shutdownTimeout :=
    Nat.mul_div_cancel _ (by decide)
  unfold story notices cutOff
  rw [hseconds, isReady_limit]
  simp only [List.append_assoc]

/-- What was lived through when the server has returned after a signal. -/
structure Lived (config : Config) (j : Journal) (acts : List (Act Fault))
    (before last : Server Fault) : Prop where
  /-- The server has returned without a fault. -/
  result : last.phase = .returned (.ok ())
  /-- Every request that was accepted was answered before the signal, or was in flight then. -/
  accepted : (before.answered.map (·.1) ++ before.pending).Perm (acts.filterMap Server.accepted)
  answered : ∀ x ∈ before.answered, Answered config.service x.1.arrival x.2
  /-- Those requests in flight are answered that finish in time. -/
  drained : ∃ finished, last.answered = before.answered ++ finished ∧
    (finished.map (·.1)).Perm (before.pending.filter (FinishesInTime config before ·)) ∧
    ∀ x ∈ finished, Answered config.service x.1.arrival x.2
  /-- The story is told among what is logged of requests, and nothing is logged behind it. -/
  story : ∃ more, last.journal.events = j.events ++ more ∧
    more.filter Event.isOfService = story config before ∧ more.getLast? = some .stopped

/-- **The life of the service.** If both listeners can be bound, both are told of, and the server is
at work, in whatever order its tasks, the clock and the requests take turns. When a signal arrives
it hears it and drains. However it goes on from there, it takes no more than a number of steps that
is settled at the signal, and it never gets stuck before it has returned. Then it has returned
without a fault: it has answered every request that came before the signal and every request in
flight that finishes in time, it has told its story, and the last event is that it stopped.

If a listener cannot be bound, the service ends with the first fault: there is no answer, and
nothing but the warning of a missing backend is logged. -/
theorem life_cycle (Fault : Type) (config : Config)
    (bindFault? : SocketAddress → Option BindFault) (j : Journal) :
    let began := (start config.service bindFault?).run j
    (Bindable config bindFault? →
      began = (.ok (), { j with events := j.events ++ opening config }) ∧
      ∀ (acts : List (Act Fault)) (before : Server Fault),
        Path config.service { journal := began.2 } acts before →
        (∀ act ∈ acts, ∀ signal, act ≠ .hears signal) →
        ∀ signal, ∃ told, step config.service before (.hears signal) = some told ∧
          ∀ (more : List (Act Fault)) (last : Server Fault),
            Path config.service told more last →
            more.length ≤ told.rank ∧
            ((∃ act next, Documented last act ∧ step config.service last act = some next) ∨
              Lived config j acts before last)) ∧
    (¬ Bindable config bindFault? → ∃ fault, Refused config bindFault? fault ∧
      ∀ c : Circumstances, c.bindFault? = bindFault? → (run config.service c).run j =
        (⟨.error fault, [], []⟩, { j with events := j.events ++ missing config })) := by
  intro began
  constructor
  · intro h
    have hbegan : began = (.ok (), { j with events := j.events ++ opening config }) :=
      start_of_bindable h j
    refine ⟨hbegan, fun acts before hpath hacts signal => ?_⟩
    have hwaiting : Waiting config.service began.2 before :=
      (Waiting.opened config.service began.2).path hpath hacts
    obtain ⟨told, hstep, hdraining⟩ := hwaiting.hears signal
    refine ⟨told, hstep, fun more last hmore => ?_⟩
    obtain ⟨hlast, hlength⟩ := hdraining.path hmore
    refine ⟨(Nat.le_add_right _ _).trans hlength, ?_⟩
    rcases hlast with hlast | hlast
    · obtain ⟨act, next, -, hdoc, hnext⟩ := hlast.progress
      exact .inl ⟨act, next, hdoc, hnext⟩
    · refine .inr ⟨hlast.phase, hpath.known, hwaiting.answered, ?_, ?_⟩
      · obtain ⟨finished, hfinished, hperm, hwhole⟩ := hlast.drained
        rw [isReady_limit] at hperm
        exact ⟨finished, hfinished, hperm, hwhole⟩
      · have hopened : Told (opening config) j began.2 := by
          rw [hbegan]
          exact told_opening j
        obtain ⟨more, hevents, htold⟩ := (hopened.trans hwaiting.silent).trans hlast.tells
        rw [List.append_nil, story_eq] at htold
        refine ⟨more, hevents, htold, ?_⟩
        have hmore : more ≠ [] := by
          rintro rfl
          exact List.append_ne_nil_of_right_ne_nil _ (List.cons_ne_nil _ _) htold.symm
        have hstopped := hlast.last
        rw [hevents, List.getLast?_append_of_ne_nil _ hmore] at hstopped
        exact hstopped
  · intro h
    obtain ⟨fault, hrefused, hfault⟩ := exists_refused h
    refine ⟨fault, hrefused, ?_⟩
    rintro c rfl
    unfold run
    rw [Action.run_bind, start_of_firstFault? hfault]
    rfl

end Life

/-! ## Given circumstances -/

section Schedule

variable {settings : ServiceSettings} {s : Server BindFault} {j : Journal}

theorem path_opens (h : Waiting settings j s) (f : Flight) :
    ∃ s', Path settings s [.opens f] s' ∧ Waiting settings j s' ∧
      s'.pending = s.pending ++ [f] ∧ s'.answered = s.answered ∧ s'.now = s.now := by
  have hdoc : Documented s (.opens f) := .opens h.told
  have hstep := @step_opens BindFault settings s f h.result? (h.tasks f.arrival.listener)
  have hwaiting := h.step (by intro _ hact; cases hact) hdoc hstep
  exact ⟨_, .cons hdoc hstep (.nil _), hwaiting, rfl, rfl, rfl⟩

theorem path_answers (h : Waiting settings j s) {f : Flight} (hpending : s.pending = [f])
    (hready : isReady s.now f = true) :
    ∃ s' r, Path settings s [.answers 0] s' ∧ Waiting settings j s' ∧
      s'.pending = [] ∧ s'.answered = s.answered ++ [(f, r)] ∧ s'.now = s.now := by
  have hfirst : s.pending[0]? = some f := by rw [hpending]; rfl
  have hdoc : Documented s (.answers 0) := .answers hfirst hready
  have hstep := @step_answers BindFault settings s 0 f h.result? hfirst
  have hwaiting := h.step (by intro _ hact; cases hact) hdoc hstep
  refine ⟨_, _, .cons hdoc hstep (.nil _), hwaiting, ?_, rfl, rfl⟩
  show s.pending.eraseIdx 0 = []
  rw [hpending]
  rfl

/-- Requests that are answered at once, one after the other. -/
theorem path_arrivals (h : Waiting settings j s) (hnone : s.pending = [])
    (arrivals : List Arrival) :
    ∃ s', Path settings s (arrivals.flatMap Arrival.acts) s' ∧ Waiting settings j s' ∧
      s'.pending = [] ∧ s'.now = s.now ∧
      s'.answered.map (·.1.arrival) = s.answered.map (·.1.arrival) ++ arrivals := by
  induction arrivals generalizing s with
  | nil => exact ⟨s, .nil s, h, hnone, rfl, (List.append_nil _).symm⟩
  | cons a arrivals ih =>
    obtain ⟨s₁, hpath₁, hwaiting₁, hpending₁, hanswered₁, hnow₁⟩ := path_opens h ⟨a, some 0⟩
    rw [hnone, List.nil_append] at hpending₁
    obtain ⟨s₂, r, hpath₂, hwaiting₂, hpending₂, hanswered₂, hnow₂⟩ :=
      path_answers hwaiting₁ hpending₁ (isReady_iff.mpr ⟨0, rfl, Nat.zero_le _⟩)
    obtain ⟨s₃, hpath₃, hwaiting₃, hpending₃, hnow₃, hanswered₃⟩ := ih hwaiting₂ hpending₂
    refine ⟨s₃, hpath₁.append (hpath₂.append hpath₃), hwaiting₃, hpending₃,
      hnow₃.trans (hnow₂.trans hnow₁), ?_⟩
    rw [hanswered₃, hanswered₂, hanswered₁, List.map_append, List.append_assoc]
    rfl

/-- Requests that are not answered yet. -/
theorem path_flights (h : Waiting settings j s) (flights : List Flight) :
    ∃ s', Path settings s (flights.map .opens) s' ∧ Waiting settings j s' ∧
      s'.pending = s.pending ++ flights ∧ s'.answered = s.answered ∧ s'.now = s.now := by
  induction flights generalizing s with
  | nil => exact ⟨s, .nil s, h, (List.append_nil _).symm, rfl, rfl⟩
  | cons f flights ih =>
    obtain ⟨s₁, hpath₁, hwaiting₁, hpending₁, hanswered₁, hnow₁⟩ := path_opens h f
    obtain ⟨s₂, hpath₂, hwaiting₂, hpending₂, hanswered₂, hnow₂⟩ := ih hwaiting₁
    refine ⟨s₂, hpath₁.append hpath₂, hwaiting₂, ?_, hanswered₂.trans hanswered₁,
      hnow₂.trans hnow₁⟩
    rw [hpending₂, hpending₁, List.append_assoc]
    rfl

end Schedule

variable {c : Circumstances}

/-- **Circumstances are lived through** on a path to a signal and one from there on, which ends when
the server has returned. -/
theorem run_path (h : Bindable config c.bindFault?) (j : Journal) :
    ∃ acts before told more last,
      Path config.service { journal := ((start config.service c.bindFault?).run j).2 } acts before ∧
      (∀ act ∈ acts, ∀ signal, act ≠ .hears signal) ∧
      before.answered.map (·.1.arrival) = c.arrivals ∧ before.pending = c.flights ∧
      before.now = 0 ∧
      step config.service before (.hears .terminate) = some told ∧
      Path config.service told more last ∧ (∃ result, last.phase = .returned result ∧
        (run config.service c).run j =
          (⟨result, (last.answered.map (·.2)).take c.arrivals.length,
            (last.answered.map (·.2)).drop c.arrivals.length⟩, last.journal)) := by
  have hbegan := start_of_bindable h j
  obtain ⟨s₁, hpath₁, hwaiting₁, hpending₁, hnow₁, hanswered₁⟩ :=
    path_arrivals (Waiting.opened config.service ((start config.service c.bindFault?).run j).2) rfl
      c.arrivals
  obtain ⟨before, hpath₂, hwaiting₂, hpending₂, hanswered₂, hnow₂⟩ :=
    path_flights hwaiting₁ c.flights
  obtain ⟨told, hhears, hdraining⟩ := hwaiting₂.hears .terminate
  obtain ⟨more, hmore, hreturned⟩ := hdraining.drain (Nat.le_refl _)
  have hpath := hpath₁.append hpath₂
  have htold : play config.service { journal := ((start config.service c.bindFault?).run j).2 }
      (schedule c.arrivals c.flights) = told :=
    Path.play (hpath.append (.cons (.hears _) hhears (.nil told)))
  refine ⟨_, before, told, more, _, hpath, ?_, ?_, ?_, hnow₂.trans hnow₁, hhears, hmore, _,
    hreturned.phase, ?_⟩
  · intro act hact signal hsignal
    subst hsignal
    rcases List.mem_append.mp hact with hact | hact
    · obtain ⟨a, -, hmem⟩ := List.mem_flatMap.mp hact
      rcases List.mem_cons.mp hmem with hmem | hmem
      · cases hmem
      · cases List.mem_singleton.mp hmem
    · obtain ⟨f, -, hmem⟩ := List.mem_map.mp hact
      cases hmem
  · rw [hanswered₂, hanswered₁]
    rfl
  · rw [hpending₂, hpending₁, List.nil_append]
  · have hrun : (run config.service c).run j =
        (work config.service c.arrivals c.flights).run
          ((start config.service c.bindFault?).run j).2 := by
      unfold run
      rw [Action.run_bind, hbegan]
    have hserve : serve config.service c.arrivals c.flights
        ((start config.service c.bindFault?).run j).2 =
          drain config.service told.rank told := by
      unfold serve
      rw [htold]
    have hwork : (work config.service c.arrivals c.flights).run
        ((start config.service c.bindFault?).run j).2 =
          (⟨((drain config.service told.rank told).phase.result?).getD (.ok ()),
            ((drain config.service told.rank told).answered.map (·.2)).take c.arrivals.length,
            ((drain config.service told.rank told).answered.map (·.2)).drop c.arrivals.length⟩,
            (drain config.service told.rank told).journal) := by
      rw [← hserve]
      rfl
    rw [hrun, hwork, hreturned.phase]
    rfl

/-- A service without a backend for alert rules is stopped while one request would be finished in
time and another one never is. -/
theorem life_cycle_cut_off :
    let host (port : Nat) : SocketAddress := ⟨.v4 [127, 0, 0, 1], port⟩
    let config : Config := ⟨host 8080, host 4000, "*", ⟨none, "", "", 10⟩, "", 10, 20, none,
      .ofNat 0, .json⟩
    let probe : Arrival := ⟨.api, .to .get "/liveness", .quiet⟩
    let c : Circumstances := ⟨fun _ => none, [probe], [⟨probe, some 5⟩, ⟨probe, none⟩]⟩
    let lived := (run config.service c).run {}
    lived.1.result = .ok () ∧ lived.1.answers.length = 1 ∧ lived.1.drained.length = 1 ∧
      lived.2.events.filter Event.isOfService =
        [.rulesUrlMissing, .apiListening "127.0.0.1:8080", .debugListening "127.0.0.1:4000",
          .signalReceived, .drainStarted 20, .drainTimedOut, .stopped] := by
  intro host config probe c lived
  have hbindable : Bindable config c.bindFault? := ⟨rfl, rfl, by decide⟩
  obtain ⟨acts, before, told, more, last, hpath, hacts, hanswered, hpending, hnow, hhears, hmore,
    result, hphase, hrun⟩ := run_path hbindable {}
  obtain ⟨-, hlife⟩ := (life_cycle BindFault config c.bindFault? {}).1 hbindable
  obtain ⟨told', hhears', hlives⟩ := hlife acts before hpath hacts .terminate
  rw [hhears] at hhears'
  cases hhears'
  rcases (hlives more last hmore).2 with ⟨act, next, -, hstep⟩ | hlived
  · rw [step_of_returned hphase] at hstep
    cases hstep
  have hresult : result = .ok () := by
    have hreturned := hlived.result
    rw [hphase] at hreturned
    exact Phase.returned.inj hreturned
  have hlimit : before.limit config.service = 20 * 1000 := by
    unfold limit
    rw [hnow]
    exact Nat.zero_add _
  have hfirst : before.answered.length = 1 := by
    have hlength := congrArg List.length hanswered
    rwa [List.length_map] at hlength
  obtain ⟨finished, hfinished, hperm, -⟩ := hlived.drained
  have hlanded : finished.length = 1 := by
    have hlength := hperm.length_eq
    rw [← isReady_limit, hlimit, hpending, List.length_map] at hlength
    exact hlength
  obtain ⟨more', hevents, hstory, -⟩ := hlived.story
  refine ⟨?_, ?_, ?_, ?_⟩
  · rw [show lived.1.result = result from congrArg (·.1.result) hrun, hresult]
  · rw [show lived.1.answers = _ from congrArg (·.1.answers) hrun, hfinished]
    simp [hfirst, c]
  · rw [show lived.1.drained = _ from congrArg (·.1.drained) hrun, hfinished]
    simp [hfirst, hlanded, c]
  · have hlate : before.pending.all (FinishesInTime config before ·) = false := by
      rw [← isReady_limit, hlimit, hpending]
      rfl
    rw [show lived.2.events = last.journal.events from congrArg (·.2.events) hrun, hevents]
    show more'.filter Event.isOfService = _
    rw [hstory, story, hlate]
    decide +kernel

end ProbeGateway.Service
