import ProbeGateway.Proofs.Service.Footprint
import ProbeGateway.Proofs.Service.Logging
import ProbeGateway.Service.Server

/-!
# The steps of a server

1. What an act comes to is told without the order in which `Server.step` looks at the state
   (`stepped_of_step`).
2. The runtime, the listeners and the timer are relied on to do what they are documented to do
   (`Documented`). A path is a run in which each act is a documented one (`Path`).
3. Nothing that answers a request tells of the life of the service (`Told.opened`, `Told.landed`),
   and each answer is what the application gives (`answered_land`).
-/

namespace ProbeGateway

variable {Fault : Type} {settings : ServiceSettings}

/-! ## Answers -/

namespace Service

/-- A response is the whole answer to a request, as the application behind its listener gives it.
The public application gives it whatever was done before. -/
structure Answered (settings : ServiceSettings) (a : Arrival) (r : Response) : Prop where
  served : ∃ j, (((appAt settings a.listener).serve a.surroundings a.request).run j).1 = r
  always : a.listener = .api →
    ∀ j, (((appAt settings a.listener).serve a.surroundings a.request).run j).1 = r

/-- A request gets the answer that it would get without the others. -/
theorem answered_land (f : Flight) (j : Journal) :
    Answered settings f.arrival ((land settings f).run j).1 where
  served := ⟨{ j with events := [] }, rfl⟩
  always h j' := by
    unfold land
    rw [h]
    have hleaves :=
      Api.leaves_serve settings.api f.arrival.surroundings f.arrival.request
    exact (hleaves.result j').trans (hleaves.result { j with events := [] }).symm

/-! ## The log -/

/-- Between two journals these events of the life of the service are told, in this order. -/
def Told (own : List Event) (j j' : Journal) : Prop :=
  ∃ more, j'.events = j.events ++ more ∧ more.filter Event.isOfService = own

theorem appAt_logsOnly (listener : Listener) :
    (appAt settings listener).LogsOnly Event.IsOfRequests := by
  cases listener with
  | api => exact Api.app_logsOnly _
  | debug => exact Inspection.app_logsOnly

namespace Told

variable {own own' : List Event} {j j' j'' : Journal}

theorem refl (j : Journal) : Told [] j j := ⟨[], (List.append_nil _).symm, rfl⟩

theorem trans (h : Told own j j') (h' : Told own' j' j'') : Told (own ++ own') j j'' := by
  obtain ⟨first, hfirst, hown⟩ := h
  obtain ⟨second, hsecond, hown'⟩ := h'
  refine ⟨first ++ second, ?_, ?_⟩
  · rw [hsecond, hfirst, List.append_assoc]
  · rw [List.filter_append, hown, hown']

theorem log {event : Event} (h : event.isOfService = true) (j : Journal) :
    Told [event] j ((Journal.log event).run j).2 := ⟨[event], rfl, List.filter_cons_of_pos h⟩

/-- What answers requests tells nothing. -/
theorem of_logsOnly {α : Type} {x : Action α} (h : Action.LogsOnly Event.IsOfRequests x)
    (j : Journal) : Told [] j (x.run j).2 := by
  obtain ⟨more, hmore, hrequests⟩ := h j
  refine ⟨more, hmore, List.filter_eq_nil_iff.mpr fun event he => ?_⟩
  rw [show event.isOfService = false from hrequests event he]
  exact Bool.false_ne_true

theorem opened (f : Flight) (j : Journal) : Told [] j ((takeOff settings f).run j).2 :=
  of_logsOnly (.forM fun event he =>
    .log (App.logsOnly_opening Event.isOfRequests_of_isOfLayers event he)) j

theorem landed (f : Flight) (j : Journal) : Told [] j ((land settings f).run j).2 :=
  of_logsOnly ((appAt_logsOnly _).resume Event.isOfRequests_of_isOfLayers) j

end Told

end Service

namespace Server

open Service

variable {s s' last : Server Fault} {act : Act Fault} {acts more : List (Act Fault)}

/-! ## What a step comes to -/

/-- What an act comes to. -/
inductive Stepped (settings : ServiceSettings) (s : Server Fault) :
    Act Fault → Server Fault → Prop
  | opens {f : Flight} (h : s.tasks f.arrival.listener = .serving) :
    Stepped settings s (.opens f) { s with
      pending := s.pending ++ [f]
      journal := ((takeOff settings f).run s.journal).2 }
  | answers {i : Nat} {f : Flight} (h : s.pending[i]? = some f) :
    Stepped settings s (.answers i) { s with
      pending := s.pending.eraseIdx i
      answered := s.answered ++ [(f, ((land settings f).run s.journal).1)]
      journal := ((land settings f).run s.journal).2 }
  | ends {listener : Listener} {e : TaskEnd Fault} (h : s.tasks listener = .serving) :
    Stepped settings s (.ends listener e) (s.setTask listener (.ended e))
  | deafens {signal : Signal} {reason : String} (h : s.phase = .waiting) :
    Stepped settings s (.deafens signal reason)
      { s.logs (.signalUnavailable signal reason) with deaf := signal :: s.deaf }
  | hears {signal : Signal} (h : s.phase = .waiting) (hdeaf : signal ∉ s.deaf) :
    Stepped settings s (.hears signal)
      { (s.logs .signalReceived).logs (.drainStarted (settings.drainMillis / 1000)) with
        told := true
        phase := .drainingApi (s.now + settings.drainMillis) }
  | exits {e : TaskEnd Fault} (h : s.phase = .waiting) (hended : s.tasks .api = .ended e) :
    Stepped settings s .wakes
      ((s.setTask .debug (s.tasks .debug).abort).returns .leftEarly e.result)
  | apiDone {e : TaskEnd Fault} {deadline : Nat} (h : s.phase = .drainingApi deadline)
      (hended : s.tasks .api = .ended e) :
    Stepped settings s .wakes { s with phase := .drainingDebug e deadline }
  | allDone {api e : TaskEnd Fault} {deadline : Nat} (h : s.phase = .drainingDebug api deadline)
      (hended : s.tasks .debug = .ended e) :
    Stepped settings s .wakes (s.returns .stopped (api.result.bind fun _ => e.result))
  | elapses {millis : Nat} : Stepped settings s (.elapses millis) { s with now := s.now + millis }
  | timesOut {deadline : Nat} (h : s.phase.deadline? = some deadline) (hnow : deadline ≤ s.now) :
    Stepped settings s .timesOut
      ({ s.logs .drainTimedOut with tasks := fun l => (s.tasks l).abort }.returns .stopped (.ok ()))

/-- The main task is woken in three places. -/
theorem stepped_of_wakes (h : s.wakes = some s') : Stepped settings s .wakes s' := by
  unfold wakes at h
  split at h
  · next hphase hended =>
    obtain rfl := Option.some.inj h
    exact .exits hphase hended
  · next hphase hended =>
    obtain rfl := Option.some.inj h
    exact .apiDone hphase hended
  · next hphase hended =>
    obtain rfl := Option.some.inj h
    exact .allDone hphase hended
  · cases h

/-- **What a step comes to.** -/
theorem stepped_of_step (h : step settings s act = some s') :
    s.phase.result? = none ∧ Stepped settings s act s' := by
  unfold step at h
  split at h
  · cases h
  · next hnone =>
    refine ⟨Option.not_isSome_iff_eq_none.mp hnone, ?_⟩
    cases act with
    | opens f =>
      dsimp only [opens] at h
      split at h
      · next hserving =>
        obtain rfl := Option.some.inj h
        exact .opens hserving
      · cases h
    | answers i =>
      obtain ⟨f, hf, rfl⟩ := Option.map_eq_some_iff.mp h
      exact .answers hf
    | ends listener e =>
      dsimp only [ends] at h
      split at h
      · next hserving =>
        obtain rfl := Option.some.inj h
        exact .ends hserving
      · cases h
    | deafens signal reason =>
      dsimp only [deafens] at h
      split at h
      · next hphase =>
        obtain rfl := Option.some.inj h
        exact .deafens hphase
      · cases h
    | hears signal =>
      dsimp only [hears] at h
      split at h
      · next hphase =>
        split at h
        · cases h
        · next hdeaf =>
          obtain rfl := Option.some.inj h
          exact .hears hphase hdeaf
      · cases h
    | wakes => exact stepped_of_wakes h
    | elapses millis =>
      obtain rfl := Option.some.inj h
      exact .elapses
    | timesOut =>
      dsimp only [timesOut] at h
      split at h
      · next deadline hdeadline =>
        split at h
        · next hnow =>
          obtain rfl := Option.some.inj h
          exact .timesOut hdeadline hnow
        · cases h
      · cases h

/-! ## What is relied on -/

/-- Nothing is left to be done at the time: every answer that is ready is given, every task that is
done has ended, and the main task does not wait for one that has. -/
structure Quiet (s : Server Fault) : Prop where
  answered : ∀ f ∈ s.pending, isReady s.now f = false
  served : ∀ listener, s.isServed listener = false
  awake : s.wakes = none

/-- What the server is built on does what it is documented to do. -/
inductive Documented (s : Server Fault) : Act Fault → Prop
  /-- A listener with a graceful shutdown accepts requests until it is told to stop. -/
  | opens {f : Flight} (h : s.told = false) : Documented s (.opens f)
  /-- A request is answered when its answer is ready, or later. -/
  | answers {i : Nat} {f : Flight} (hi : s.pending[i]? = some f) (h : isReady s.now f = true) :
    Documented s (.answers i)
  /-- A listener with a graceful shutdown is served until it is told to stop and all requests that
  it accepted are answered. It never fails, and its task neither panics nor is aborted by others. -/
  | ends {listener : Listener} (h : s.isServed listener = true) :
    Documented s (.ends listener .served)
  /-- A signal may arrive at any time. All signals can be waited for. -/
  | hears (signal : Signal) : Documented s (.hears signal)
  | wakes : Documented s .wakes
  /-- Time passes, and the timer does not oversleep its deadline. -/
  | elapses {millis : Nat} (hpos : 0 < millis)
      (h : ∀ deadline ∈ s.phase.deadline?, s.now + millis ≤ deadline) :
    Documented s (.elapses millis)
  /-- A timeout looks at what it limits before it looks at its timer: it does not cut off what is
  ready by the deadline. -/
  | timesOut (h : s.Quiet) : Documented s .timesOut

/-- A run of documented acts. -/
inductive Path (settings : ServiceSettings) :
    Server Fault → List (Act Fault) → Server Fault → Prop
  | nil (s : Server Fault) : Path settings s [] s
  | cons {s s' last : Server Fault} {act : Act Fault} {acts : List (Act Fault)}
      (h : Documented s act) (hstep : step settings s act = some s')
      (hrest : Path settings s' acts last) : Path settings s (act :: acts) last

namespace Path

theorem append {s' : Server Fault} (h : Path settings s acts s') (h' : Path settings s' more last) :
    Path settings s (acts ++ more) last := by
  induction h with
  | nil s => exact h'
  | cons hact hstep _ ih => exact .cons hact hstep (ih h')

/-- The acts of a path can be let take place. -/
theorem play (h : Path settings s acts last) : Server.play settings s acts = last := by
  induction h with
  | nil s => rfl
  | cons _ hstep _ ih =>
    unfold Server.play at ih ⊢
    rw [List.foldl_cons, hstep, Option.getD_some, ih]

/-- What every documented step keeps is kept along a path. -/
theorem preserves {P : Server Fault → Prop}
    (hstep : ∀ {s s' : Server Fault} {act : Act Fault}, act ∈ acts → P s → Documented s act →
      step settings s act = some s' → P s')
    (h : Path settings s acts last) (hs : P s) : P last := by
  induction h with
  | nil s => exact hs
  | cons hact hstep' _ ih =>
    exact ih (fun hmem => hstep (.tail _ hmem)) (hstep (.head _) hs hact hstep')

end Path

end Server

end ProbeGateway
