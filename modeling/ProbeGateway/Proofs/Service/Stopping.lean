import Mathlib.Data.List.Perm.Basic
import ProbeGateway.Proofs.Service.Steps

/-!
# How a server stops

1. No accepted request is lost: it is pending until it is answered (`Path.known`).
2. Until a signal arrives the main task waits, and both listeners are served (`Waiting`). No other
   documented act ends that (`Waiting.step`), and a signal always can (`Waiting.hears`).
3. From then on the server drains (`Draining`). Each documented act leaves it draining, or makes
   it return (`Draining.step`). There always is one that can take place (`Draining.progress`), and
   each is one of finitely many that are left (`rank_step`), so that it returns however these acts
   are interleaved (`Draining.path`).
4. Once it has returned, those requests are answered whose answers were ready by the deadline
   (`Returned`).
-/

namespace ProbeGateway.Server

open Service

variable {Fault : Type} {settings : ServiceSettings} {s s' before last : Server Fault}
  {act : Act Fault} {acts : List (Act Fault)} {j : Journal}

/-! ## Parts of a state -/

section Parts

variable (s) (event : Event) (listener : Listener) (task : Task Fault) (result : Except Fault Unit)

@[simp] theorem phase_logs : (s.logs event).phase = s.phase := rfl
@[simp] theorem tasks_logs : (s.logs event).tasks = s.tasks := rfl
@[simp] theorem told_logs : (s.logs event).told = s.told := rfl
@[simp] theorem now_logs : (s.logs event).now = s.now := rfl
@[simp] theorem pending_logs : (s.logs event).pending = s.pending := rfl
@[simp] theorem answered_logs : (s.logs event).answered = s.answered := rfl

theorem tasks_setTask_self : (s.setTask listener task).tasks listener = task := if_pos rfl

theorem tasks_setTask_of_ne {l : Listener} (h : l ≠ listener) :
    (s.setTask listener task).tasks l = s.tasks l := if_neg h

@[simp] theorem phase_returns : (s.returns event result).phase = .returned result := by
  cases result with
  | ok _ => rfl
  | error fault => rfl

@[simp] theorem tasks_returns : (s.returns event result).tasks = s.tasks := by
  cases result with
  | ok _ => rfl
  | error fault => rfl

@[simp] theorem pending_returns : (s.returns event result).pending = s.pending := by
  cases result with
  | ok _ => rfl
  | error fault => rfl

@[simp] theorem answered_returns : (s.returns event result).answered = s.answered := by
  cases result with
  | ok _ => rfl
  | error fault => rfl

end Parts

theorem result?_of_deadline? {phase : Phase Fault} {deadline : Nat}
    (h : phase.deadline? = some deadline) : phase.result? = none := by
  cases phase with
  | returned result => cases h
  | _ => rfl

theorem step_of_result? (h : s.phase.result? = none) :
    step settings s act = match act with
      | .opens f => opens settings s f
      | .answers i => answers settings s i
      | .ends listener e => s.ends listener e
      | .deafens signal reason => s.deafens signal reason
      | .hears signal => hears settings s signal
      | .wakes => s.wakes
      | .elapses millis => some { s with now := s.now + millis }
      | .timesOut => s.timesOut :=
  if_neg (by rw [h]; exact Bool.false_ne_true)

theorem step_opens {f : Flight} (h : s.phase.result? = none)
    (hserving : s.tasks f.arrival.listener = .serving) :
    step settings s (.opens f) = some { s with
      pending := s.pending ++ [f]
      journal := ((takeOff settings f).run s.journal).2 } := by
  rw [step_of_result? h]
  dsimp only [opens]
  rw [hserving]

theorem step_answers {i : Nat} {f : Flight} (h : s.phase.result? = none)
    (hi : s.pending[i]? = some f) :
    step settings s (.answers i) = some { s with
      pending := s.pending.eraseIdx i
      answered := s.answered ++ [(f, ((land settings f).run s.journal).1)]
      journal := ((land settings f).run s.journal).2 } := by
  rw [step_of_result? h]
  dsimp only [answers]
  rw [hi, Option.map_some]

theorem step_ends {listener : Listener} (h : s.phase.result? = none)
    (hserving : s.tasks listener = .serving) (e : TaskEnd Fault) :
    step settings s (.ends listener e) = some (s.setTask listener (.ended e)) := by
  rw [step_of_result? h]
  dsimp only [ends]
  rw [hserving]

theorem step_timesOut {deadline : Nat} (h : s.phase.deadline? = some deadline)
    (hnow : deadline ≤ s.now) :
    step settings s .timesOut =
      some ({ s.logs .drainTimedOut with tasks := fun l => (s.tasks l).abort }.returns .stopped
        (.ok ())) := by
  rw [step_of_result? (result?_of_deadline? h)]
  dsimp only [timesOut]
  rw [h]
  exact if_pos hnow

theorem step_of_returned {result : Except Fault Unit} (h : s.phase = .returned result)
    (act : Act Fault) : step settings s act = none :=
  if_pos (by rw [h]; rfl)

theorem isServed_iff {listener : Listener} :
    s.isServed listener = true ↔
      s.told = true ∧ s.tasks listener = .serving ∧
        ∀ f ∈ s.pending, f.arrival.listener ≠ listener := by
  unfold isServed
  rw [Bool.and_eq_true, Bool.and_eq_true, List.all_eq_true, and_assoc]
  refine and_congr_right fun _ => and_congr ?_ (forall₂_congr fun f _ => decide_eq_true_iff)
  cases s.tasks listener <;> simp

theorem isReady_iff {now : Nat} {f : Flight} :
    isReady now f = true ↔ ∃ t, f.readyAt = some t ∧ t ≤ now := by
  unfold isReady
  cases f.readyAt with
  | none => simp
  | some t => simp

theorem isReady_mono {f : Flight} {t t' : Nat} (h : t ≤ t') (hready : isReady t f = true) :
    isReady t' f = true := by
  obtain ⟨ready, hat, hle⟩ := isReady_iff.mp hready
  exact isReady_iff.mpr ⟨ready, hat, hle.trans h⟩

/-! ## Requests that are known -/

/-- The requests that were accepted: those that are answered, and those that are pending. -/
def known (s : Server Fault) : List Flight := s.answered.map (·.1) ++ s.pending

/-- The request that is accepted in an act. -/
def accepted : Act Fault → Option Flight
  | .opens f => some f
  | _ => none

theorem perm_of_answers {answered : List (Flight × Response)} {pending : List Flight} {i : Nat}
    {f : Flight} (h : pending[i]? = some f) (r : Response) :
    ((answered ++ [(f, r)]).map (·.1) ++ pending.eraseIdx i).Perm
      (answered.map (·.1) ++ pending) := by
  obtain ⟨hi, rfl⟩ := List.getElem?_eq_some_iff.mp h
  rw [List.map_append, List.map_singleton, List.append_assoc]
  exact (List.getElem_cons_eraseIdx_perm hi).append_left _

theorem known_step (h : step settings s act = some s') :
    s'.known.Perm (s.known ++ (accepted act).toList) := by
  obtain ⟨-, hstepped⟩ := stepped_of_step h
  cases hstepped with
  | opens h =>
    unfold known
    dsimp only [accepted, Option.toList]
    rw [List.append_assoc]
  | answers hi =>
    dsimp only [known, accepted, Option.toList]
    rw [List.append_nil]
    exact perm_of_answers hi _
  | exits | allDone | timesOut =>
    unfold known
    rw [answered_returns, pending_returns]
    exact .of_eq (List.append_nil _).symm
  | _ => exact .of_eq (List.append_nil _).symm

/-- **No accepted request is lost.** -/
theorem Path.known (h : Path settings s acts last) :
    last.known.Perm (s.known ++ acts.filterMap accepted) := by
  induction h with
  | nil s => exact .of_eq (List.append_nil _).symm
  | @cons s s' last act acts _ hstep _ ih =>
    have hsplit : s.known ++ (act :: acts).filterMap accepted =
        (s.known ++ (accepted act).toList) ++ acts.filterMap accepted := by
      rw [List.filterMap_cons, List.append_assoc]
      cases accepted act with
      | none => rfl
      | some f => rfl
    rw [hsplit]
    exact ih.trans ((known_step hstep).append_right _)

/-! ## Before a signal -/

/-- Both listeners are served, and nothing is told since a journal. -/
structure Waiting (settings : ServiceSettings) (j : Journal) (s : Server Fault) : Prop where
  phase : s.phase = .waiting
  told : s.told = false
  tasks : ∀ listener, s.tasks listener = .serving
  deaf : s.deaf = []
  silent : Told [] j s.journal
  answered : ∀ x ∈ s.answered, Answered settings x.1.arrival x.2

namespace Waiting

theorem result? (h : Waiting settings j s) : s.phase.result? = none := by
  rw [h.phase]
  rfl

theorem opened (settings : ServiceSettings) (j : Journal) :
    Waiting settings j ({ journal := j } : Server Fault) :=
  ⟨rfl, rfl, fun _ => rfl, rfl, .refl j, fun _ hx => absurd hx List.not_mem_nil⟩

/-- Nothing but a signal ends the waiting. -/
theorem step (h : Waiting settings j s) (hact : ∀ signal, act ≠ .hears signal)
    (hdoc : Documented s act) (hstep : Server.step settings s act = some s') :
    Waiting settings j s' := by
  obtain ⟨-, hstepped⟩ := stepped_of_step hstep
  cases hstepped with
  | @opens f _ => exact ⟨h.phase, h.told, h.tasks, h.deaf, h.silent.trans (.opened f _), h.answered⟩
  | @answers i f _ =>
    refine ⟨h.phase, h.told, h.tasks, h.deaf, h.silent.trans (.landed f _), fun x hx => ?_⟩
    rcases List.mem_append.mp hx with hx | hx
    · exact h.answered x hx
    · rw [List.mem_singleton.mp hx]
      exact answered_land f s.journal
  | ends =>
    cases hdoc with
    | ends hserved =>
      have htold := (isServed_iff.mp hserved).1
      rw [h.told] at htold
      cases htold
  | deafens => cases hdoc
  | @hears signal => exact absurd rfl (hact signal)
  | exits _ hended =>
    rw [h.tasks] at hended
    cases hended
  | apiDone hphase | allDone hphase =>
    rw [h.phase] at hphase
    cases hphase
  | elapses => exact ⟨h.phase, h.told, h.tasks, h.deaf, h.silent, h.answered⟩
  | timesOut hphase =>
    rw [h.phase] at hphase
    cases hphase

/-- A server that was not told to stop serves. -/
theorem path (h : Waiting settings j s) (hpath : Path settings s acts last)
    (hacts : ∀ act ∈ acts, ∀ signal, act ≠ .hears signal) : Waiting settings j last :=
  hpath.preserves (fun hmem hs hdoc hstep => hs.step (hacts _ hmem) hdoc hstep) h

end Waiting

/-! ## After the signal -/

/-- The deadline of a server that is told to stop now. -/
def limit (settings : ServiceSettings) (before : Server Fault) : Nat :=
  before.now + settings.drainMillis

/-- What is told at the signal. -/
def notices (settings : ServiceSettings) : List Event :=
  [.signalReceived, .drainStarted (settings.drainMillis / 1000)]

/-- The warning that requests were cut off, where the answer of one is not ready by the deadline. -/
def cutOff (settings : ServiceSettings) (before : Server Fault) : List Event :=
  if before.pending.all (isReady (before.limit settings)) then [] else [.drainTimedOut]

/-- Since a signal, requests that were pending then are answered, with answers that were ready by
the deadline, and the others are pending still. -/
structure Answers (settings : ServiceSettings) (before : Server Fault) (pending : List Flight)
    (answered finished : List (Flight × Response)) : Prop where
  answered : answered = before.answered ++ finished
  pending : (finished.map (·.1) ++ pending).Perm before.pending
  inTime : ∀ x ∈ finished, isReady (before.limit settings) x.1 = true
  whole : ∀ x ∈ finished, Answered settings x.1.arrival x.2

/-- A server drains since a signal. -/
structure Draining (settings : ServiceSettings) (before s : Server Fault) : Prop where
  told : s.told = true
  deadline : s.phase.deadline? = some (before.limit settings)
  now_le : s.now ≤ before.limit settings
  /-- A task that does not serve has ended well, with nothing left to serve. -/
  tasks : ∀ listener, s.tasks listener = .serving ∨
    s.tasks listener = .ended .served ∧ ∀ f ∈ s.pending, f.arrival.listener ≠ listener
  /-- The main task waits for the public listener first. -/
  apiFirst : ∀ e deadline, s.phase = .drainingDebug e deadline →
    e = .served ∧ s.tasks .api = .ended .served
  answers : ∃ finished, Answers settings before s.pending s.answered finished
  tells : Told (notices settings) before.journal s.journal

/-- A server has returned after a signal: those requests are answered whose answers were ready by
the deadline, and the last of all events is that it stopped. -/
structure Returned (settings : ServiceSettings) (before s : Server Fault) : Prop where
  phase : s.phase = .returned (.ok ())
  drained : ∃ finished, s.answered = before.answered ++ finished ∧
    (finished.map (·.1)).Perm (before.pending.filter (isReady (before.limit settings))) ∧
    ∀ x ∈ finished, Answered settings x.1.arrival x.2
  tells : Told (notices settings ++ cutOff settings before ++ [.stopped]) before.journal s.journal
  last : s.journal.events.getLast? = some .stopped

theorem Waiting.hears (h : Waiting settings j s) (signal : Signal) :
    ∃ s', Server.step settings s (.hears signal) = some s' ∧ Draining settings s s' := by
  have hstep : Server.step settings s (.hears signal) =
      some { (s.logs .signalReceived).logs (.drainStarted (settings.drainMillis / 1000)) with
        told := true
        phase := .drainingApi (s.now + settings.drainMillis) } := by
    rw [step_of_result? h.result?]
    show Server.hears settings s signal = _
    unfold Server.hears
    rw [h.phase, h.deaf]
    exact if_neg List.not_mem_nil
  refine ⟨_, hstep, rfl, rfl, Nat.le_add_right _ _, fun l => .inl (h.tasks l), ?_, ⟨[], ?_⟩, ?_⟩
  · intro e deadline hphase
    cases hphase
  · exact ⟨(List.append_nil _).symm, .refl _, fun _ hx => absurd hx List.not_mem_nil,
      fun _ hx => absurd hx List.not_mem_nil⟩
  · exact (Told.log (decide_eq_true rfl) s.journal).trans (.log (decide_eq_true rfl) _)

namespace Draining

theorem phase_ne_waiting (h : Draining settings before s) : s.phase ≠ .waiting := by
  intro hphase
  have hdeadline := h.deadline
  rw [hphase] at hdeadline
  cases hdeadline

theorem eq_served (h : Draining settings before s) {listener : Listener} {e : TaskEnd Fault}
    (hended : s.tasks listener = .ended e) :
    e = .served ∧ ∀ f ∈ s.pending, f.arrival.listener ≠ listener := by
  rcases h.tasks listener with hserving | ⟨hserved, hnone⟩
  · rw [hserving] at hended
    cases hended
  · rw [hserved] at hended
    cases hended
    exact ⟨rfl, hnone⟩

/-- One more request is answered. -/
theorem answer (h : Draining settings before s) {i : Nat} {f : Flight}
    (hi : s.pending[i]? = some f) (hready : isReady s.now f = true) :
    Draining settings before { s with
      pending := s.pending.eraseIdx i
      answered := s.answered ++ [(f, ((land settings f).run s.journal).1)]
      journal := ((land settings f).run s.journal).2 } where
  told := h.told
  deadline := h.deadline
  now_le := h.now_le
  tasks l := (h.tasks l).imp_right fun ⟨hended, hnone⟩ =>
    ⟨hended, fun f hf => hnone f (List.mem_of_mem_eraseIdx hf)⟩
  apiFirst := h.apiFirst
  tells := by
    have htells := h.tells.trans (@Told.landed settings f s.journal)
    rwa [List.append_nil] at htells
  answers := by
    obtain ⟨finished, ha⟩ := h.answers
    refine ⟨finished ++ [(f, ((land settings f).run s.journal).1)], ?_,
      (perm_of_answers hi _).trans ha.pending, ?_, ?_⟩
    · show s.answered ++ _ = _
      rw [ha.answered, List.append_assoc]
    · intro x hx
      rcases List.mem_append.mp hx with hx | hx
      · exact ha.inTime x hx
      · rw [List.mem_singleton.mp hx]
        exact isReady_mono h.now_le hready
    · intro x hx
      rcases List.mem_append.mp hx with hx | hx
      · exact ha.whole x hx
      · rw [List.mem_singleton.mp hx]
        exact answered_land f s.journal

/-- One more task has nothing left to serve. -/
theorem finish (h : Draining settings before s) {listener : Listener}
    (hserved : s.isServed listener = true) :
    Draining settings before (s.setTask listener (.ended .served)) where
  told := h.told
  deadline := h.deadline
  now_le := h.now_le
  tasks l := by
    by_cases hl : l = listener
    · subst hl
      exact .inr ⟨tasks_setTask_self s l _, (isServed_iff.mp hserved).2.2⟩
    · rw [tasks_setTask_of_ne s listener _ hl]
      exact h.tasks l
  apiFirst e deadline hphase := by
    obtain ⟨he, hapi⟩ := h.apiFirst e deadline hphase
    refine ⟨he, ?_⟩
    have hne : Listener.api ≠ listener := by
      rintro rfl
      rw [(isServed_iff.mp hserved).2.1] at hapi
      cases hapi
    rw [tasks_setTask_of_ne s listener _ hne, hapi]
  answers := h.answers
  tells := h.tells

/-- The main task goes on to the debug listener. -/
theorem goOn (h : Draining settings before s) {e : TaskEnd Fault} {deadline : Nat}
    (hphase : s.phase = .drainingApi deadline) (hended : s.tasks .api = .ended e) :
    Draining settings before { s with phase := .drainingDebug e deadline } where
  told := h.told
  deadline := by
    have hdeadline := h.deadline
    rw [hphase] at hdeadline
    exact hdeadline
  now_le := h.now_le
  tasks := h.tasks
  apiFirst e' deadline' heq := by
    obtain ⟨rfl, -⟩ := Phase.drainingDebug.inj heq
    obtain ⟨rfl, -⟩ := h.eq_served hended
    exact ⟨rfl, hended⟩
  answers := h.answers
  tells := h.tells

/-- The server returns when both listeners are served. -/
theorem complete (h : Draining settings before s) {api e : TaskEnd Fault} {deadline : Nat}
    (hphase : s.phase = .drainingDebug api deadline) (hended : s.tasks .debug = .ended e) :
    Returned settings before (s.returns .stopped (api.result.bind fun _ => e.result)) := by
  obtain ⟨rfl, hapi⟩ := h.apiFirst api deadline hphase
  obtain ⟨rfl, hdebug⟩ := h.eq_served hended
  obtain ⟨-, hnone⟩ := h.eq_served hapi
  have hpending : s.pending = [] := by
    refine List.eq_nil_iff_forall_not_mem.mpr fun f hf => ?_
    cases hl : f.arrival.listener with
    | api => exact hnone f hf hl
    | debug => exact hdebug f hf hl
  obtain ⟨finished, ha⟩ := h.answers
  have hperm : (finished.map (·.1)).Perm before.pending := by
    have hperm := ha.pending
    rwa [hpending, List.append_nil] at hperm
  have hready : ∀ f ∈ before.pending, isReady (before.limit settings) f = true := by
    intro f hf
    obtain ⟨x, hx, rfl⟩ := List.mem_map.mp (hperm.mem_iff.mpr hf)
    exact ha.inTime x hx
  refine ⟨rfl, ⟨finished, ha.answered, ?_, ha.whole⟩, ?_, List.getLast?_concat⟩
  · rwa [List.filter_eq_self.mpr hready]
  · rw [cutOff, if_pos (List.all_eq_true.mpr hready), List.append_nil]
    exact h.tells.trans (.log (decide_eq_true rfl) s.journal)

/-- Something is pending at the deadline if nothing else is left to be done. -/
theorem exists_pending (h : Draining settings before s) (hquiet : s.Quiet) :
    ∃ f, f ∈ s.pending := by
  refine List.exists_mem_of_ne_nil _ fun hnil => ?_
  have hended (l : Listener) : s.tasks l = .ended .served := by
    refine (h.tasks l).elim (fun hserving => ?_) (·.1)
    have hserved : s.isServed l = true :=
      isServed_iff.mpr ⟨h.told, hserving, fun f hf => absurd (hnil ▸ hf) List.not_mem_nil⟩
    rw [hquiet.served l] at hserved
    cases hserved
  have hawake := hquiet.awake
  have hdeadline := h.deadline
  unfold wakes at hawake
  rw [hended, hended] at hawake
  cases hphase : s.phase with
  | waiting => exact h.phase_ne_waiting hphase
  | drainingApi deadline | drainingDebug e deadline =>
    rw [hphase] at hawake
    cases hawake
  | returned result =>
    rw [hphase] at hdeadline
    cases hdeadline

/-- The server returns at its deadline. -/
theorem expire (h : Draining settings before s) (hnow : before.limit settings ≤ s.now)
    (hquiet : s.Quiet) :
    Returned settings before
      ({ s.logs .drainTimedOut with tasks := fun l => (s.tasks l).abort }.returns .stopped
        (.ok ())) := by
  have hnow : s.now = before.limit settings := Nat.le_antisymm h.now_le hnow
  obtain ⟨finished, ha⟩ := h.answers
  have hlate : ∀ f ∈ s.pending, isReady (before.limit settings) f = false := by
    rw [← hnow]
    exact hquiet.answered
  have hcut : before.pending.all (isReady (before.limit settings)) = false := by
    obtain ⟨f, hf⟩ := h.exists_pending hquiet
    refine List.all_eq_false.mpr ⟨f, ha.pending.subset (List.mem_append_right _ hf), ?_⟩
    rw [hlate f hf]
    exact Bool.false_ne_true
  refine ⟨rfl, ⟨finished, ha.answered, ?_, ha.whole⟩, ?_, List.getLast?_concat⟩
  · have hperm := ha.pending.filter (isReady (before.limit settings))
    rw [List.filter_append] at hperm
    have hkept : (finished.map (·.1)).filter (isReady (before.limit settings)) =
        finished.map (·.1) := by
      refine List.filter_eq_self.mpr fun f hf => ?_
      obtain ⟨x, hx, rfl⟩ := List.mem_map.mp hf
      exact ha.inTime x hx
    have hdropped : s.pending.filter (isReady (before.limit settings)) = [] :=
      List.filter_eq_nil_iff.mpr fun f hf => by rw [hlate f hf]; exact Bool.false_ne_true
    rwa [hkept, hdropped, List.append_nil] at hperm
  · rw [cutOff, hcut, if_neg Bool.false_ne_true]
    exact (h.tells.trans (.log (decide_eq_true rfl) s.journal)).trans (.log (decide_eq_true rfl) _)

/-- **A documented act leaves the server draining, or makes it return.** -/
theorem step (h : Draining settings before s) (hdoc : Documented s act)
    (hstep : Server.step settings s act = some s') :
    Draining settings before s' ∨ Returned settings before s' := by
  obtain ⟨-, hstepped⟩ := stepped_of_step hstep
  cases hstepped with
  | opens =>
    cases hdoc with
    | opens htold =>
      rw [h.told] at htold
      cases htold
  | answers hi =>
    cases hdoc with
    | answers hi' hready =>
      rw [hi] at hi'
      cases hi'
      exact .inl (h.answer hi hready)
  | ends =>
    cases hdoc with
    | ends hserved => exact .inl (h.finish hserved)
  | deafens => cases hdoc
  | hears hphase | exits hphase => exact absurd hphase h.phase_ne_waiting
  | apiDone hphase hended => exact .inl (h.goOn hphase hended)
  | allDone hphase hended => exact .inr (h.complete hphase hended)
  | elapses =>
    cases hdoc with
    | elapses _ hlimit => exact .inl { h with now_le := hlimit _ h.deadline }
  | timesOut hphase hnow =>
    rw [h.deadline] at hphase
    cases hphase
    cases hdoc with
    | timesOut hquiet => exact .inr (h.expire hnow hquiet)

end Draining

/-! ## What is left to do -/

theorem rank_abort_le (task : Task Fault) : task.abort.rank ≤ task.rank := by
  cases task with
  | serving => exact Nat.zero_le _
  | ended e => exact Nat.le_refl _
  | aborted => exact Nat.le_refl _

theorem rank_returns (event : Event) (result : Except Fault Unit) :
    (s.returns event result).rank =
      s.pending.length + (s.tasks .api).rank + (s.tasks .debug).rank := by
  simp [rank, Phase.rank]

/-- **Each documented act is one of those that are left.** -/
theorem rank_step (h : Draining settings before s) (hdoc : Documented s act)
    (hstep : step settings s act = some s') : s'.rank < s.rank := by
  obtain ⟨-, hstepped⟩ := stepped_of_step hstep
  have hphase : 0 < s.phase.rank s.now := by
    have hdeadline := h.deadline
    cases hphase : s.phase with
    | waiting => exact absurd hphase h.phase_ne_waiting
    | drainingApi | drainingDebug => exact Nat.succ_pos _
    | returned result =>
      rw [hphase] at hdeadline
      cases hdeadline
  cases hstepped with
  | opens =>
    cases hdoc with
    | opens htold =>
      rw [h.told] at htold
      cases htold
  | @answers i f hi =>
    obtain ⟨hlt, -⟩ := List.getElem?_eq_some_iff.mp hi
    have hlength : (s.pending.eraseIdx i).length = s.pending.length - 1 :=
      List.length_eraseIdx_of_lt hlt
    unfold rank
    dsimp only
    omega
  | @ends listener e hserving =>
    have hself := tasks_setTask_self s listener (.ended e)
    unfold rank
    cases listener with
    | api =>
      have hother := tasks_setTask_of_ne s .api (.ended e) (show Listener.debug ≠ .api from nofun)
      rw [hself, hother, hserving]
      exact Nat.add_lt_add_right (Nat.lt_succ_self _) _
    | debug =>
      have hother := tasks_setTask_of_ne s .debug (.ended e) (show Listener.api ≠ .debug from nofun)
      rw [hself, hother, hserving]
      exact Nat.lt_succ_self _
  | deafens => cases hdoc
  | hears hwaiting | exits hwaiting => exact absurd hwaiting h.phase_ne_waiting
  | @apiDone e deadline hdraining =>
    unfold rank
    rw [hdraining]
    simp only [Phase.rank]
    omega
  | allDone =>
    rw [rank_returns]
    unfold rank
    omega
  | @elapses millis =>
    cases hdoc with
    | elapses hpos hlimit =>
      have hle := hlimit _ h.deadline
      have hdeadline := h.deadline
      have hless : s.phase.rank (s.now + millis) < s.phase.rank s.now := by
        cases hphase : s.phase with
        | waiting => exact absurd hphase h.phase_ne_waiting
        | drainingApi deadline | drainingDebug e deadline =>
          rw [hphase] at hdeadline
          obtain rfl := Option.some.inj hdeadline
          simp only [Phase.rank]
          omega
        | returned result =>
          rw [hphase] at hdeadline
          cases hdeadline
      unfold rank
      dsimp only
      omega
  | timesOut =>
    have hapi := rank_abort_le (s.tasks .api)
    have hdebug := rank_abort_le (s.tasks .debug)
    rw [rank_returns]
    unfold rank
    dsimp only [pending_logs]
    omega

theorem foldl_min_le (times : List Nat) (limit : Nat) : times.foldl min limit ≤ limit := by
  induction times generalizing limit with
  | nil => exact Nat.le_refl _
  | cons t times ih => exact (ih _).trans (Nat.min_le_left _ _)

theorem lt_foldl_min {times : List Nat} {now limit : Nat} (hlimit : now < limit)
    (h : ∀ t ∈ times, now < t) : now < times.foldl min limit := by
  induction times generalizing limit with
  | nil => exact hlimit
  | cons t times ih =>
    exact ih (Nat.lt_min.mpr ⟨hlimit, h t (.head _)⟩) fun t' ht' => h t' (.tail _ ht')

namespace Draining

/-- **There always is an act that can take place.** -/
theorem progress (h : Draining settings before s) :
    ∃ act s', s.next? = some act ∧ Documented s act ∧ Server.step settings s act = some s' := by
  have hnone : s.phase.result? = none := result?_of_deadline? h.deadline
  unfold next?
  cases hfind : s.pending.findIdx? (isReady s.now) with
  | some i =>
    obtain ⟨hi, hready, -⟩ := List.findIdx?_eq_some_iff_getElem.mp hfind
    have hget : s.pending[i]? = some s.pending[i] := List.getElem?_eq_getElem hi
    exact ⟨_, _, rfl, .answers hget hready, step_answers hnone hget⟩
  | none =>
    have hunready := List.findIdx?_eq_none_iff.mp hfind
    have hends {listener : Listener} (hserved : s.isServed listener = true) :
        Server.step settings s (.ends listener .served) =
          some (s.setTask listener (.ended .served)) :=
      step_ends hnone (isServed_iff.mp hserved).2.1 .served
    dsimp only
    split
    · next hserved => exact ⟨_, _, rfl, .ends hserved, hends hserved⟩
    next hapi =>
    split
    · next hserved => exact ⟨_, _, rfl, .ends hserved, hends hserved⟩
    next hdebug =>
    split
    · next hwakes =>
      obtain ⟨s', hs'⟩ := Option.isSome_iff_exists.mp hwakes
      exact ⟨_, s', rfl, .wakes, by rw [step_of_result? hnone, ← hs']⟩
    next hasleep =>
    have hquiet : s.Quiet := by
      refine ⟨hunready, fun l => ?_, Option.not_isSome_iff_eq_none.mp hasleep⟩
      cases l with
      | api => exact Bool.eq_false_iff.mpr hapi
      | debug => exact Bool.eq_false_iff.mpr hdebug
    rw [h.deadline, Option.map_some]
    split
    · next hlt =>
      have hlater : s.now < s.nextTime (before.limit settings) := by
        refine lt_foldl_min hlt fun t ht => ?_
        obtain ⟨f, hf, hat⟩ := List.mem_filterMap.mp ht
        exact Nat.lt_of_not_le fun hle =>
          Bool.eq_false_iff.mp (hunready f hf) (isReady_iff.mpr ⟨t, hat, hle⟩)
      refine ⟨_, _, rfl, .elapses (Nat.sub_pos_of_lt hlater) ?_, by rw [step_of_result? hnone]⟩
      intro deadline hdeadline
      rw [h.deadline] at hdeadline
      cases hdeadline
      rw [Nat.add_sub_cancel' hlater.le]
      exact foldl_min_le _ _
    · next hge =>
      exact ⟨_, _, rfl, .timesOut hquiet, step_timesOut h.deadline (Nat.le_of_not_lt hge)⟩

/-- **A server that drains returns**, whichever documented acts take place: those that are left
become fewer with each. -/
theorem path (h : Draining settings before s) (hpath : Path settings s acts last) :
    (Draining settings before last ∨ Returned settings before last) ∧
      acts.length + last.rank ≤ s.rank := by
  induction hpath with
  | nil s => exact ⟨.inl h, (Nat.zero_add _).le⟩
  | @cons s s' last act acts hdoc hstep hrest ih =>
    have hrank := rank_step h hdoc hstep
    rcases h.step hdoc hstep with h' | h'
    · obtain ⟨hlast, hlength⟩ := ih h'
      refine ⟨hlast, ?_⟩
      rw [List.length_cons]
      omega
    · cases hrest with
      | nil =>
        refine ⟨.inr h', ?_⟩
        rw [List.length_singleton]
        omega
      | cons _ hstep' =>
        rw [step_of_returned h'.phase] at hstep'
        cases hstep'

/-- The schedule is a path that ends when the server has returned. -/
theorem drain (h : Draining settings before s) {n : Nat} (hn : s.rank ≤ n) :
    ∃ acts, Path settings s acts (Server.drain settings n s) ∧
      Returned settings before (Server.drain settings n s) := by
  induction n generalizing s with
  | zero =>
    obtain ⟨act, s', -, hdoc, hstep⟩ := h.progress
    exact absurd (rank_step h hdoc hstep) (by omega)
  | succ n ih =>
    obtain ⟨act, s', hnext, hdoc, hstep⟩ := h.progress
    have hdrain : Server.drain settings (n + 1) s = Server.drain settings n s' := by
      rw [Server.drain, hnext, Option.bind_some, hstep]
    have hrank := rank_step h hdoc hstep
    rw [hdrain]
    rcases h.step hdoc hstep with h' | h'
    · obtain ⟨acts, hpath, hreturned⟩ := ih h' (by omega)
      exact ⟨act :: acts, .cons hdoc hstep hpath, hreturned⟩
    · have hstays : Server.drain settings n s' = s' := by
        cases n with
        | zero => rfl
        | succ n =>
          have hstuck : s'.next?.bind (Server.step settings s') = none := by
            cases s'.next? with
            | none => rfl
            | some act => exact step_of_returned h'.phase act
          rw [Server.drain, hstuck]
      rw [hstays]
      exact ⟨[act], .cons hdoc hstep (.nil s'), h'⟩

end Draining

end ProbeGateway.Server
