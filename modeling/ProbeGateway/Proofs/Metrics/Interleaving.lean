import ProbeGateway.Metrics.Recording
import ProbeGateway.Number.Numeral

/-!
# Recordings that run into each other

Any number of responses are recorded at the same time. Each recording takes its steps in their
order, and between two of them the others may take theirs: a schedule tells, step after step, which
recording is next. While recordings are under way the counters disagree with each other, but each
of them agrees with how far the recordings are (`Fleet.Consistent`).

1. One step of a recording changes a count by as much as it changes what the recording adds to it
   (`Recording.Adds`).
2. Any step keeps a fleet consistent (`Consistent.step`), and so does any schedule
   (`Consistent.run`).
3. Each step brings a recording nearer to its end, so six of them finish it (`done_of_count`).
4. Once all recordings are done, nothing was lost or counted twice (`counted_once`).
-/

namespace ProbeGateway

/-! ## Flights -/

/-- A recording under way. -/
structure Fleet.Flight where
  recording : Recording
  stage : Recording.Stage
deriving DecidableEq, Repr

/-- Recordings under way with the metrics that they share, and what was seen of them so far. -/
structure Fleet where
  flights : List Fleet.Flight
  metrics : Metrics
  /-- The numbers that were given out, oldest first, each with the place of the recording that got
  it. -/
  given : List (Nat × Nat)
  /-- The operations carried out so far, oldest first. -/
  operations : List Metrics.Operation
deriving DecidableEq, Repr

namespace Recording.Stage

/-- The number that a recording was just given. -/
def number? : Stage → Option Nat
  | counted number => some number
  | _ => none

/-- How many steps lie behind a stage. -/
def rank : Stage → Nat
  | arrived => 0
  | counted _ => 1
  | labelling => 2
  | timing => 3
  | failing => 4
  | blaming => 5
  | done => 6

end Recording.Stage

namespace Fleet.Flight

/-- Whether the next step counts the tasks. -/
def samplesNext (f : Fleet.Flight) : Bool := f.stage.number?.any Recording.samplesAt

/-- Whether a recording is past so many steps. -/
def isPast (steps : Nat) (f : Fleet.Flight) : Bool := steps < f.stage.rank

/-- Whether the recording of a failed response is past so many steps. -/
def failedPast (steps : Nat) (f : Fleet.Flight) : Bool := f.recording.isFailed && f.isPast steps

theorem failedPast_of_failed {r : Recording} (h : r.isFailed = true) (steps : Nat)
    (stage : Recording.Stage) : failedPast steps ⟨r, stage⟩ = isPast steps ⟨r, stage⟩ := by
  rw [failedPast, h, Bool.true_and]

theorem failedPast_of_other {r : Recording} (h : r.isFailed = false) (steps : Nat)
    (stage : Recording.Stage) : failedPast steps ⟨r, stage⟩ = false := by
  rw [failedPast, h, Bool.false_and]

/-- Only the recording of a failed response is at the stages for those. -/
def Sound (f : Fleet.Flight) : Prop :=
  f.stage = .failing ∨ f.stage = .blaming → f.recording.isFailed = true

end Fleet.Flight

namespace Fleet

/-- Recordings none of which has taken a step, with fresh metrics. -/
def start (recordings : List Recording) : Fleet := ⟨recordings.map (⟨·, .arrived⟩), {}, [], []⟩

/-- How many tasks were alive, each time that they were counted. -/
def samples (fleet : Fleet) : List Int := fleet.operations.filterMap Metrics.Operation.sampled?

/-- The recording at a place takes its next step; where there is none, nothing happens. -/
def step (i : Nat) (fleet : Fleet) : Fleet :=
  match fleet.flights[i]? with
  | none => fleet
  | some f =>
    let next := f.recording.step f.stage fleet.metrics
    { flights := fleet.flights.set i { f with stage := next.1 }
      metrics := fleet.metrics.after next.2
      given := fleet.given ++ next.1.number?.toList.map (i, ·)
      operations := fleet.operations ++ next.2.toList }

/-- Recordings take their steps in the order of a schedule. -/
def run : (schedule : List Nat) → Fleet → Fleet
  | [], fleet => fleet
  | i :: rest, fleet => run rest (step i fleet)

/-- What the metrics and the observations agree on at any time. -/
structure Consistent (fleet : Fleet) : Prop where
  sound : ∀ f ∈ fleet.flights, f.Sound
  requests : fleet.metrics.requests = fleet.flights.countP (·.isPast 0)
  labelled : fleet.metrics.httpRequests.total = fleet.flights.countP (·.isPast 2)
  errors : fleet.metrics.errors = fleet.flights.countP (·.failedPast 4)
  blamed : fleet.metrics.httpErrors.total = fleet.flights.countP (·.failedPast 5)
  numbers : fleet.given.map Prod.snd = List.range' 1 fleet.metrics.requests
  holders : ∀ i, (fleet.given.map Prod.fst).count i =
    (fleet.flights[i]?.any (·.isPast 0)).toNat
  sampled : fleet.samples.length + fleet.flights.countP Fleet.Flight.samplesNext =
    fleet.metrics.requests / Metrics.sampleInterval
  /-- The gauge holds what the last count of the tasks has found. -/
  workers : fleet.metrics.workers = fleet.samples.getLast?.getD 0

end Fleet

/-! ## One step of a recording -/

namespace Recording

/-- What one step of a recording can do: the stage before, the metrics that it finds, the stage
behind it and its operation. -/
inductive Moves (r : Recording) : Stage → Metrics → Stage → Option Metrics.Operation → Prop
  | arrived (m : Metrics) : Moves r .arrived m (.counted (m.requests + 1)) (some .addRequest)
  | sampled (number : Nat) (m : Metrics) (h : samplesAt number = true) :
      Moves r (.counted number) m .labelling (some (.sampleWorkers r.aliveTasks))
  | unsampled (number : Nat) (m : Metrics) (h : samplesAt number = false) :
      Moves r (.counted number) m .labelling none
  | labelling (m : Metrics) :
      Moves r .labelling m .timing (some (.countResponse r.method r.path r.status))
  | timed (m : Metrics) (h : r.isFailed = false) :
      Moves r .timing m .done (some (.timeResponse r.method r.path r.seconds))
  | timedFailed (m : Metrics) (h : r.isFailed = true) :
      Moves r .timing m .failing (some (.timeResponse r.method r.path r.seconds))
  | failing (m : Metrics) : Moves r .failing m .blaming (some .addError)
  | blaming (m : Metrics) : Moves r .blaming m .done (some (.recordError r.method r.path r.kind))
  | done (m : Metrics) : Moves r .done m .done none

theorem moves_step (r : Recording) (stage : Stage) (m : Metrics) :
    r.Moves stage m (r.step stage m).1 (r.step stage m).2 := by
  cases stage with
  | arrived => exact .arrived m
  | counted number =>
    cases hs : samplesAt number with
    | true => simpa [step, hs] using Moves.sampled number m hs
    | false => simpa [step, hs] using Moves.unsampled number m hs
  | labelling => exact .labelling m
  | timing =>
    cases hf : r.isFailed with
    | true => simpa [step, hf] using Moves.timedFailed m hf
    | false => simpa [step, hf] using Moves.timed m hf
  | failing => exact .failing m
  | blaming => exact .blaming m
  | done => exact .done m

variable {r : Recording} {stage stage' : Stage} {m : Metrics} {operation? : Option Metrics.Operation}

theorem Moves.sound (h : r.Moves stage m stage' operation?) (hs : Fleet.Flight.Sound ⟨r, stage⟩) :
    Fleet.Flight.Sound ⟨r, stage'⟩ := by
  cases h with
  | timedFailed _ hf => exact fun _ => hf
  | failing => exact fun _ => hs (.inl rfl)
  | _ => simp [Fleet.Flight.Sound]

/-- Each step of a recording changes a count by as much as it changes what the recording adds. -/
def Adds (count : Metrics → Nat) (adds : Fleet.Flight → Bool) : Prop :=
  ∀ {r : Recording} {stage stage' : Stage} {m : Metrics} {operation? : Option Metrics.Operation},
    r.Moves stage m stage' operation? → Fleet.Flight.Sound ⟨r, stage⟩ →
    count (m.after operation?) + (adds ⟨r, stage⟩).toNat = count m + (adds ⟨r, stage'⟩).toNat

theorem adds_requests : Adds (·.requests) (·.isPast 0) := by
  intro r stage stage' m operation? h _
  cases h with
  | _ => rfl

theorem adds_labelled : Adds (·.httpRequests.total) (·.isPast 2) := by
  intro r stage stage' m operation? h _
  cases h with
  | labelling => exact Tally.total_add _ _
  | _ => rfl

theorem adds_errors : Adds (·.errors) (·.failedPast 4) := by
  intro r stage stage' m operation? h hs
  dsimp only
  cases h with
  | timed _ hf => rw [Fleet.Flight.failedPast_of_other hf, Fleet.Flight.failedPast_of_other hf]; rfl
  | failing =>
    have hf : r.isFailed = true := hs (.inl rfl)
    rw [Fleet.Flight.failedPast_of_failed hf, Fleet.Flight.failedPast_of_failed hf]
    rfl
  | _ => cases r.isFailed <;> rfl

theorem adds_blamed : Adds (·.httpErrors.total) (·.failedPast 5) := by
  intro r stage stage' m operation? h hs
  dsimp only
  cases h with
  | timed _ hf => rw [Fleet.Flight.failedPast_of_other hf, Fleet.Flight.failedPast_of_other hf]; rfl
  | blaming =>
    have hf : r.isFailed = true := hs (.inr rfl)
    rw [Fleet.Flight.failedPast_of_failed hf, Fleet.Flight.failedPast_of_failed hf]
    exact Tally.total_add _ _
  | _ => cases r.isFailed <;> rfl

/-- The numbers go on from the requests counted before. -/
theorem Moves.numbers (h : r.Moves stage m stage' operation?) :
    List.range' 1 m.requests ++ stage'.number?.toList =
      List.range' 1 (m.after operation?).requests := by
  cases h with
  | arrived =>
    show _ = List.range' 1 (m.requests + 1)
    rw [List.range'_concat, Nat.one_mul, Nat.add_comm]
    rfl
  | _ => exact List.append_nil _

/-- A recording is given its number at its first step. -/
theorem Moves.given (h : r.Moves stage m stage' operation?) :
    (Fleet.Flight.isPast 0 ⟨r, stage⟩).toNat + stage'.number?.toList.length =
      (Fleet.Flight.isPast 0 ⟨r, stage'⟩).toNat := by
  cases h with
  | _ => rfl

/-- The tasks are to be counted once in so many requests. -/
theorem Moves.due (h : r.Moves stage m stage' operation?) :
    m.requests / Metrics.sampleInterval + (Fleet.Flight.samplesNext ⟨r, stage'⟩).toNat =
      (m.after operation?).requests / Metrics.sampleInterval := by
  cases h with
  | arrived =>
    show m.requests / 1000 + (decide ((m.requests + 1) % 1000 = 0)).toNat =
      (m.requests + 1) / 1000
    cases hs : decide ((m.requests + 1) % 1000 = 0) with
    | true =>
      have := of_decide_eq_true hs
      simp only [Bool.toNat_true]
      omega
    | false =>
      have := of_decide_eq_false hs
      simp only [Bool.toNat_false]
      omega
  | _ => rfl

/-- A step that is to count the tasks does so, and no other step does. -/
theorem Moves.samples (h : r.Moves stage m stage' operation?) :
    (operation?.toList.filterMap Metrics.Operation.sampled?).length =
      (Fleet.Flight.samplesNext ⟨r, stage⟩).toNat := by
  cases h with
  | sampled number _ hs => exact (congrArg Bool.toNat hs).symm
  | unsampled number _ hs => exact (congrArg Bool.toNat hs).symm
  | _ => rfl

/-- The gauge of the tasks is set by counting them, and by nothing else. -/
theorem Moves.workers (h : r.Moves stage m stage' operation?) :
    (m.after operation?).workers =
      (operation?.toList.filterMap Metrics.Operation.sampled?).getLast?.getD m.workers := by
  cases h with
  | _ => rfl

/-- A step leads on, unless the recording is done. -/
theorem Moves.rank (h : r.Moves stage m stage' operation?) :
    min 6 (stage.rank + 1) ≤ stage'.rank := by
  cases h with
  | _ => simp [Stage.rank]

end Recording

/-! ## One step of a fleet -/

namespace Fleet

variable {fleet : Fleet} {i : Nat}

/-- A flight that takes the place of another changes a count by what the two add to it. -/
theorem countP_set {flights : List Fleet.Flight} {f : Fleet.Flight} (h : flights[i]? = some f)
    (g : Fleet.Flight) (p : Fleet.Flight → Bool) :
    (flights.set i g).countP p + (p f).toNat = flights.countP p + (p g).toNat := by
  obtain ⟨hlt, rfl⟩ := List.getElem?_eq_some_iff.mp h
  have hite (b : Bool) : (if b = true then 1 else 0) = b.toNat := by cases b <;> rfl
  have hle := List.boole_getElem_le_countP (p := p) hlt
  rw [hite] at hle
  rw [List.countP_set hlt, hite, hite]
  omega

/-- A step moves the recording at its place, if there is one. -/
theorem step_of_getElem? {f : Fleet.Flight} (h : fleet.flights[i]? = some f) :
    ∃ stage operation?, f.recording.Moves f.stage fleet.metrics stage operation? ∧
      fleet.step i = {
        flights := fleet.flights.set i ⟨f.recording, stage⟩
        metrics := fleet.metrics.after operation?
        given := fleet.given ++ stage.number?.toList.map (i, ·)
        operations := fleet.operations ++ operation?.toList } := by
  refine ⟨_, _, Recording.moves_step f.recording f.stage fleet.metrics, ?_⟩
  unfold step
  rw [h]

/-- A count that agrees with the recordings goes on to agree. -/
theorem adds_step {count : Metrics → Nat} {adds : Fleet.Flight → Bool}
    (hadds : Recording.Adds count adds) (hs : ∀ f ∈ fleet.flights, f.Sound)
    (h : count fleet.metrics = fleet.flights.countP adds) (i : Nat) :
    count (fleet.step i).metrics = (fleet.step i).flights.countP adds := by
  cases hf : fleet.flights[i]? with
  | none =>
    unfold step
    rw [hf]
    exact h
  | some f =>
    obtain ⟨r, stage⟩ := f
    obtain ⟨stage', operation?, hmoves, hstep⟩ := step_of_getElem? hf
    have hcount := hadds hmoves (hs _ (List.mem_of_getElem? hf))
    have hflights := countP_set hf ⟨r, stage'⟩ adds
    rw [hstep]
    dsimp only at hcount ⊢
    omega

/-- **Any step keeps a fleet consistent.** -/
theorem Consistent.step (h : Consistent fleet) (i : Nat) : Consistent (fleet.step i) := by
  cases hf : fleet.flights[i]? with
  | none =>
    have hstep : fleet.step i = fleet := by
      unfold Fleet.step
      rw [hf]
    rw [hstep]
    exact h
  | some f =>
    obtain ⟨r, stage⟩ := f
    obtain ⟨stage', operation?, hmoves, hstep⟩ := step_of_getElem? hf
    have hflight : Fleet.Flight.Sound ⟨r, stage⟩ := h.sound _ (List.mem_of_getElem? hf)
    constructor
    case requests => exact adds_step (@Recording.adds_requests) h.sound h.requests i
    case labelled => exact adds_step (@Recording.adds_labelled) h.sound h.labelled i
    case errors => exact adds_step (@Recording.adds_errors) h.sound h.errors i
    case blamed => exact adds_step (@Recording.adds_blamed) h.sound h.blamed i
    case sound =>
      rw [hstep]
      intro g hg
      rcases List.mem_or_eq_of_mem_set hg with hg | rfl
      · exact h.sound g hg
      · exact hmoves.sound hflight
    case numbers =>
      rw [hstep]
      dsimp only
      rw [List.map_append, h.numbers, List.map_map, ← hmoves.numbers,
        show Prod.snd ∘ (i, ·) = @id Nat from rfl, List.map_id]
    case holders =>
      intro k
      have hgiven := hmoves.given
      rw [hstep]
      dsimp only
      rw [List.map_append, List.count_append, h.holders, List.map_map,
        show Prod.fst ∘ (i, ·) = Function.const Nat i from rfl, List.map_const, List.count_replicate,
        List.getElem?_set]
      by_cases hk : i = k
      · subst hk
        have hlt := (List.getElem?_eq_some_iff.mp hf).1
        rw [hf, if_pos rfl, if_pos hlt, if_pos (beq_self_eq_true i)]
        exact hgiven
      · rw [if_neg hk, if_neg (by simpa using hk), Nat.add_zero]
    case sampled =>
      have hcount := countP_set hf ⟨r, stage'⟩ Fleet.Flight.samplesNext
      have hdue := hmoves.due
      have hsamples := hmoves.samples
      have hbefore := h.sampled
      unfold samples at hbefore ⊢
      rw [hstep]
      dsimp only at hdue hsamples ⊢
      rw [List.filterMap_append, List.length_append]
      omega
    case workers =>
      rw [hstep]
      unfold samples
      dsimp only
      rw [hmoves.workers, h.workers, List.filterMap_append, List.getLast?_append, Option.getD_or]
      rfl

/-! ## Schedules -/

variable {recordings : List Recording}

theorem consistent_start (recordings : List Recording) : Consistent (start recordings) := by
  have hnone (p : Fleet.Flight → Bool) (hp : ∀ r : Recording, p ⟨r, .arrived⟩ = false) :
      (start recordings).flights.countP p = 0 := by
    unfold start
    rw [List.countP_map, List.countP_eq_zero]
    intro r _
    rw [Function.comp_apply, hp]
    exact Bool.false_ne_true
  constructor
  case sound =>
    intro f hf
    obtain ⟨r, -, rfl⟩ := List.mem_map.mp hf
    simp [Fleet.Flight.Sound]
  case requests => exact (hnone _ fun _ => rfl).symm
  case labelled => exact (hnone _ fun _ => rfl).symm
  case errors => exact (hnone _ fun r => Bool.and_false r.isFailed).symm
  case blamed => exact (hnone _ fun r => Bool.and_false r.isFailed).symm
  case numbers => rfl
  case holders =>
    intro i
    unfold start
    dsimp only
    rw [List.getElem?_map]
    cases recordings[i]? with
    | none => rfl
    | some r => rfl
  case sampled =>
    rw [hnone Fleet.Flight.samplesNext fun _ => rfl]
    exact (Nat.zero_div _).symm
  case workers => rfl

/-- **Any schedule keeps a fleet consistent.** -/
theorem Consistent.run (h : Consistent fleet) (schedule : List Nat) :
    Consistent (fleet.run schedule) := by
  induction schedule generalizing fleet with
  | nil => exact h
  | cons i rest ih => exact ih (h.step i)

/-- No step changes what is recorded. -/
theorem recordings_run (schedule : List Nat) :
    (fleet.run schedule).flights.map (·.recording) = fleet.flights.map (·.recording) := by
  induction schedule generalizing fleet with
  | nil => rfl
  | cons i rest ih =>
    rw [run, ih]
    cases hf : fleet.flights[i]? with
    | none =>
      unfold step
      rw [hf]
    | some f =>
      obtain ⟨stage, operation?, -, hstep⟩ := step_of_getElem? hf
      obtain ⟨hlt, rfl⟩ := List.getElem?_eq_some_iff.mp hf
      have hlt' : i < (fleet.flights.map Fleet.Flight.recording).length := by simpa using hlt
      have hsame := List.set_getElem_self hlt'
      rw [List.getElem_map] at hsame
      rw [hstep, List.map_set]
      exact hsame

theorem flights_start : (start recordings).flights.map (·.recording) = recordings := by
  unfold start
  rw [List.map_map]
  exact List.map_id _

/-- Once all recordings are done, a count of what is past some steps counts what it is about. -/
theorem countP_of_done (hdone : ∀ f ∈ fleet.flights, f.stage = .done) {p : Fleet.Flight → Bool}
    {q : Recording → Bool} (hp : ∀ r, p ⟨r, .done⟩ = q r) :
    fleet.flights.countP p = (fleet.flights.map (·.recording)).countP q := by
  rw [List.countP_map]
  apply List.countP_congr
  rintro ⟨r, stage⟩ hf
  obtain rfl : stage = .done := hdone _ hf
  rw [hp]
  rfl

/-- A step of the recording at a place leads it on, and no other step throws it back. -/
theorem rank_step {f : Fleet.Flight} (h : fleet.flights[i]? = some f) (k : Nat) :
    ∃ g, (fleet.step k).flights[i]? = some g ∧
      min 6 (f.stage.rank + if k == i then 1 else 0) ≤ g.stage.rank := by
  cases hk : fleet.flights[k]? with
  | none =>
    have hne : (k == i) = false := by
      rw [beq_eq_false_iff_ne]
      rintro rfl
      rw [h] at hk
      cases hk
    refine ⟨f, ?_, by rw [hne]; exact Nat.min_le_right _ _⟩
    unfold step
    rw [hk]
    exact h
  | some f' =>
    obtain ⟨stage, operation?, hmoves, hstep⟩ := step_of_getElem? hk
    rw [hstep]
    by_cases hki : k = i
    · subst hki
      obtain rfl : f = f' := Option.some.inj (h.symm.trans hk)
      refine ⟨⟨f.recording, stage⟩, ?_, ?_⟩
      · exact List.getElem?_set_self (List.getElem?_eq_some_iff.mp h).1
      · simpa using hmoves.rank
    · refine ⟨f, ?_, by rw [beq_false_of_ne hki]; exact Nat.min_le_right _ _⟩
      rw [List.getElem?_set_ne hki]
      exact h

/-- A schedule leads a recording on as often as it names it. -/
theorem rank_run {f : Fleet.Flight} (schedule : List Nat) (h : fleet.flights[i]? = some f) :
    ∃ g, (fleet.run schedule).flights[i]? = some g ∧
      min 6 (f.stage.rank + schedule.count i) ≤ g.stage.rank := by
  induction schedule generalizing fleet f with
  | nil => exact ⟨f, h, Nat.min_le_right _ _⟩
  | cons k rest ih =>
    obtain ⟨g, hg, hstep⟩ := rank_step h k
    obtain ⟨g', hg', hrest⟩ := ih hg
    refine ⟨g', hg', ?_⟩
    rw [List.count_cons]
    omega

/-- **Six steps finish a recording**, whatever the others do in between. -/
theorem done_of_count {schedule : List Nat} (h : ∀ i < recordings.length, 6 ≤ schedule.count i) :
    ∀ f ∈ ((start recordings).run schedule).flights, f.stage = .done := by
  intro g hg
  obtain ⟨i, hi⟩ := List.mem_iff_getElem?.mp hg
  have hlt : i < recordings.length := by
    have hsame : ((start recordings).run schedule).flights.map (·.recording) = recordings :=
      (recordings_run schedule).trans flights_start
    rw [← hsame, List.length_map]
    exact (List.getElem?_eq_some_iff.mp hi).1
  have hstart : (start recordings).flights[i]? = some ⟨recordings[i], .arrived⟩ := by
    unfold start
    dsimp only
    rw [List.getElem?_map, List.getElem?_eq_getElem hlt]
    rfl
  obtain ⟨g', hg', hrank⟩ := rank_run schedule hstart
  obtain rfl : g = g' := Option.some.inj (hi.symm.trans hg')
  have hcount := h i hlt
  have hsix : 6 ≤ g.stage.rank := by omega
  generalize g.stage = stage at hsix
  cases stage with
  | done => rfl
  | _ => exact absurd hsix (by simp [Recording.Stage.rank])

/-- No counter gets beyond the number of recordings at any time, so that counters of 64 bits are
enough for all fleets smaller than what they hold. -/
theorem counters_lt_wordLimit (h : recordings.length < wordLimit) (schedule : List Nat) :
    let fleet := (start recordings).run schedule
    fleet.metrics.requests < wordLimit ∧ fleet.metrics.errors < wordLimit := by
  intro fleet
  have hconsistent : fleet.Consistent := (consistent_start recordings).run schedule
  have hle (p : Fleet.Flight → Bool) : fleet.flights.countP p < wordLimit := by
    refine Nat.lt_of_le_of_lt List.countP_le_length ?_
    rw [← List.length_map (f := Fleet.Flight.recording),
      show fleet.flights.map Fleet.Flight.recording = recordings from
        (recordings_run schedule).trans flights_start]
    exact h
  rw [hconsistent.requests, hconsistent.errors]
  exact ⟨hle _, hle _⟩

/-- **Nothing is lost and nothing is counted twice**, in whatever order any number of recordings
take their steps: when all are done, each was given a number of its own, the numbers are those from
one to the number of recordings, the tasks were counted once in a thousand of them, the gauge has
what the last count found, and the plain counters, the families and the recordings themselves
agree. -/
theorem counted_once (recordings : List Recording) (schedule : List Nat)
    (hdone : ∀ f ∈ ((start recordings).run schedule).flights, f.stage = .done) :
    let fleet := (start recordings).run schedule
    let failed := recordings.countP Recording.isFailed
    (fleet.given.map Prod.fst).Perm (List.range recordings.length) ∧
    fleet.given.map Prod.snd = List.range' 1 recordings.length ∧
    (fleet.samples.length = recordings.length / 1000 ∧
      fleet.metrics.workers = fleet.samples.getLast?.getD 0) ∧
    (fleet.metrics.requests = recordings.length ∧
      fleet.metrics.httpRequests.total = recordings.length) ∧
    (fleet.metrics.errors = failed ∧ fleet.metrics.httpErrors.total = failed) := by
  intro fleet failed
  have h : fleet.Consistent := (consistent_start recordings).run schedule
  have hrecordings : fleet.flights.map (·.recording) = recordings :=
    (recordings_run schedule).trans flights_start
  have hlength : fleet.flights.length = recordings.length := by
    rw [← hrecordings, List.length_map]
  have hall {p : Fleet.Flight → Bool} (hp : ∀ r, p ⟨r, .done⟩ = true) :
      fleet.flights.countP p = recordings.length := by
    rw [countP_of_done hdone hp, hrecordings, List.countP_true]
  have hfailed {p : Fleet.Flight → Bool} (hp : ∀ r : Recording, p ⟨r, .done⟩ = r.isFailed) :
      fleet.flights.countP p = failed := by
    rw [countP_of_done hdone hp, hrecordings]
  have hrequests : fleet.metrics.requests = recordings.length :=
    h.requests.trans (hall fun _ => rfl)
  refine ⟨?_, ?_, ⟨?_, h.workers⟩, ⟨hrequests, h.labelled.trans (hall fun _ => rfl)⟩,
    h.errors.trans (hfailed fun r => Bool.and_true _),
    h.blamed.trans (hfailed fun r => Bool.and_true _)⟩
  · rw [List.perm_iff_count]
    intro i
    rw [h.holders, List.count_range, ← hlength]
    cases hf : fleet.flights[i]? with
    | none => rw [if_neg (Nat.not_lt.mpr (List.getElem?_eq_none_iff.mp hf))]; rfl
    | some f =>
      rw [if_pos (List.getElem?_eq_some_iff.mp hf).1]
      obtain ⟨r, stage⟩ := f
      obtain rfl : stage = .done := hdone _ (List.mem_of_getElem? hf)
      rfl
  · rw [h.numbers, hrequests]
  · have hnone : fleet.flights.countP Fleet.Flight.samplesNext = 0 := by
      rw [countP_of_done (q := fun _ => false) hdone fun _ => rfl, List.countP_false]
      rfl
    rw [← hrequests, ← Nat.add_zero fleet.samples.length, ← hnone]
    exact h.sampled

/-- A thousand requests all of which are under way at the same time: they take their first steps one
after the other, then their second ones, and so on. One of them fails, and the tasks are counted
once. -/
theorem counted_once_thousand :
    let recordings : List Recording :=
      ⟨"GET", "/boom", 500, "Internal", .zero false, 4⟩ ::
        List.replicate 999 ⟨"GET", "/ok", 200, "Unknown", .zero false, 3⟩
    let schedule := (List.replicate 6 (List.range 1000)).flatten
    let fleet := (start recordings).run schedule
    (∀ f ∈ fleet.flights, f.stage = .done) ∧
      fleet.given.map Prod.snd = List.range' 1 1000 ∧ fleet.samples.length = 1 ∧
      fleet.metrics.requests = 1000 ∧ fleet.metrics.httpRequests.total = 1000 ∧
      fleet.metrics.errors = 1 ∧ fleet.metrics.httpErrors.total = 1 := by
  intro recordings schedule
  dsimp only
  have hlength : recordings.length = 1000 := by
    rw [List.length_cons, List.length_replicate]
  have hcount (i : Nat) (hi : i < recordings.length) : 6 ≤ schedule.count i := by
    have hone : (List.range 1000).count i = 1 := by
      rw [List.count_range, if_pos (hlength ▸ hi)]
    have hsix : schedule.count i = 6 * 1 := by
      rw [List.count_flatten, List.map_replicate, List.sum_replicate_nat, hone]
    omega
  have hfailed : recordings.countP Recording.isFailed = 1 := by
    rw [List.countP_cons, List.countP_replicate]
    rfl
  have hdone := done_of_count hcount
  obtain ⟨-, hnumbers, ⟨hsamples, -⟩, ⟨hrequests, hlabelled⟩, herrors, hblamed⟩ :=
    counted_once recordings schedule hdone
  rw [hlength] at hnumbers hsamples hrequests hlabelled
  rw [hfailed] at herrors hblamed
  exact ⟨hdone, hnumbers, hsamples, hrequests, hlabelled, herrors, hblamed⟩

end Fleet

end ProbeGateway
