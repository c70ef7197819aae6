import ProbeGateway.Proofs.Failure.Faithful
import ProbeGateway.Proofs.Number.Counts
import ProbeGateway.Proofs.Service.Inspection
import ProbeGateway.Proofs.Text.Form

/-!
# Which forms ask for a profile

A form asks for a profile by the pairs that it spells, by the values under two names alone
(`ProfileParams.AsksFor`). A profile is started for just these forms, with the parameters that they
ask for; every other form is refused, and nothing is left behind (`profile_started_iff`).

1. What a pair adds to the parameters read so far is what its value means, under a name that had
   none before (`Draft.read_eq_ok`).
2. So it is with a list of pairs: under either name it has a single value, or none
   (`Draft.readAll_eq_ok`, by induction along the list).
3. What is read in the end and is in range is what the form asks for (`accepts_iff`).
-/

namespace ProbeGateway

namespace ProfileFormat

theorem name_injective {f f' : ProfileFormat} (h : f.name = f'.name) : f = f' := by
  cases f <;> cases f' <;> first | rfl | exact absurd h (by decide)

theorem ofWord?_eq_some {s : String} {f : ProfileFormat} : ofWord? s = some f ↔ s = f.word := by
  constructor
  · intro h
    have hword := List.find?_some h
    exact (of_decide_eq_true hword).symm
  · rintro rfl
    cases f <;> rfl

end ProfileFormat

namespace ProfileParams

open Headers (values)

/-! ## Reading a parameter -/

section

variable {α : Type} {Means : String → α → Prop}

/-- The values under a name settle a parameter: where there is none it stays as it was, and a single
one settles it, unless it was settled before. -/
inductive Settles (Means : String → α → Prop) : Option α → List String → Option α → Prop
  | kept (before : Option α) : Settles Means before [] before
  | read {value : String} {x : α} (h : Means value x) : Settles Means none [value] (some x)

variable {before after : Option α}

theorem settles_nil : Settles Means before [] after ↔ after = before := by
  constructor
  · rintro ⟨⟩
    rfl
  · rintro rfl
    exact .kept _

theorem settles_singleton {value : String} :
    Settles Means before [value] after ↔ before = none ∧ ∃ x, Means value x ∧ after = some x := by
  constructor
  · rintro ⟨⟩
    next x h => exact ⟨rfl, x, h, rfl⟩
  · rintro ⟨rfl, x, h, rfl⟩
    exact .read h

/-- Values settle a parameter one part after the other. -/
theorem settles_append {first second : List String} :
    Settles Means before (first ++ second) after ↔
      ∃ between, Settles Means before first between ∧ Settles Means between second after := by
  constructor
  · generalize hall : first ++ second = all
    intro h
    cases h with
    | kept =>
      obtain ⟨rfl, rfl⟩ := List.append_eq_nil_iff.mp hall
      exact ⟨_, .kept _, .kept _⟩
    | read h =>
      rcases List.append_eq_singleton_iff.mp hall with ⟨rfl, rfl⟩ | ⟨rfl, rfl⟩
      · exact ⟨_, .kept _, .read h⟩
      · exact ⟨_, .read h, .kept _⟩
  · rintro ⟨between, hfirst, hsecond⟩
    cases hfirst with
    | kept => exact hsecond
    | read h =>
      cases hsecond with
      | kept => exact .read h

/-- The values under a name tell a parameter: a default where there is none, and what the value
means where there is one. -/
def Tell (Means : String → α → Prop) (default : α) (told : List String) (x : α) : Prop :=
  told = [] ∧ x = default ∨ ∃ value, told = [value] ∧ Means value x

theorem tell_iff {default : α} {told : List String} {x : α} :
    Tell Means default told x ↔
      ∃ after, Settles Means none told after ∧ after.getD default = x := by
  constructor
  · rintro (⟨rfl, rfl⟩ | ⟨value, rfl, h⟩)
    · exact ⟨none, .kept _, rfl⟩
    · exact ⟨some x, .read h, rfl⟩
  · rintro ⟨after, h, rfl⟩
    cases h with
    | kept => exact .inl ⟨rfl, rfl⟩
    | read h => exact .inr ⟨_, rfl, h⟩

end

/-! ## Reading a form -/

/-- A value spells a number of seconds that can be held. -/
def SpellsSeconds (s : String) (n : Nat) : Prop := SpellsCount s n ∧ n < wordLimit

/-- A value is the word for a format. -/
def IsWordFor (s : String) (f : ProfileFormat) : Prop := s = f.word

variable {d d' : Draft} {pairs : List (String × String)} {p : ProfileParams}

namespace Draft

theorem readSeconds_eq_ok {value : String} :
    d.readSeconds value = .ok d' ↔
      Settles SpellsSeconds d.seconds [value] d'.seconds ∧ d'.format = d.format := by
  obtain ⟨seconds, format⟩ := d
  obtain ⟨seconds', format'⟩ := d'
  have hcount {n : Nat} : readCount wordLimit value = .ok n ↔ SpellsSeconds value n :=
    readCount_eq_ok (by decide)
  rw [settles_singleton]
  unfold readSeconds
  cases seconds with
  | some n => exact iff_of_false nofun nofun
  | none =>
    simp only [← hcount]
    cases hread : readCount wordLimit value with
    | error fault => exact iff_of_false nofun nofun
    | ok n => simp [eq_comm]

theorem readFormat_eq_ok {value : String} :
    d.readFormat value = .ok d' ↔
      Settles IsWordFor d.format [value] d'.format ∧ d'.seconds = d.seconds := by
  obtain ⟨seconds, format⟩ := d
  obtain ⟨seconds', format'⟩ := d'
  rw [settles_singleton]
  unfold readFormat IsWordFor
  cases format with
  | some f => exact iff_of_false nofun nofun
  | none =>
    simp only [← ProfileFormat.ofWord?_eq_some]
    cases hread : ProfileFormat.ofWord? value with
    | none => exact iff_of_false nofun nofun
    | some f => simp [eq_comm, and_comm]

/-- A draft goes on to another one by the values under the two names. -/
def Reads (d : Draft) (pairs : List (String × String)) (d' : Draft) : Prop :=
  Settles SpellsSeconds d.seconds (values "seconds" pairs) d'.seconds ∧
    Settles IsWordFor d.format (values "format" pairs) d'.format

theorem reads_nil : d.Reads [] d' ↔ d = d' := by
  obtain ⟨seconds, format⟩ := d
  obtain ⟨seconds', format'⟩ := d'
  unfold Reads
  rw [Headers.values_nil, Headers.values_nil, settles_nil, settles_nil, mk.injEq, eq_comm,
    @eq_comm _ format]

/-- What one pair does. -/
theorem read_eq_ok {pair : String × String} : d.read pair = .ok d' ↔ d.Reads [pair] d' := by
  obtain ⟨name, value⟩ := pair
  unfold read
  dsimp only
  by_cases hseconds : name = "seconds"
  · subst hseconds
    rw [if_pos rfl, readSeconds_eq_ok, Reads, Headers.values_cons_self,
      Headers.values_cons_of_ne (by decide), Headers.values_nil, Headers.values_nil, settles_nil]
  rw [if_neg hseconds]
  by_cases hformat : name = "format"
  · subst hformat
    rw [if_pos rfl, readFormat_eq_ok, Reads, Headers.values_cons_self,
      Headers.values_cons_of_ne (by decide), Headers.values_nil, Headers.values_nil, settles_nil,
      and_comm]
  · rw [if_neg hformat, Reads, Headers.values_cons_of_ne hseconds,
      Headers.values_cons_of_ne hformat, Except.ok.injEq]
    exact reads_nil.symm

/-- What pairs do one after the other. -/
theorem reads_cons {pair : String × String} :
    d.Reads (pair :: pairs) d' ↔ ∃ m, d.Reads [pair] m ∧ Reads m pairs d' := by
  have hvalues (name : String) :
      values name (pair :: pairs) = values name [pair] ++ values name pairs :=
    Headers.values_append name [pair] pairs
  unfold Reads
  rw [hvalues, hvalues, settles_append, settles_append]
  constructor
  · rintro ⟨⟨seconds, h, h'⟩, format, hf, hf'⟩
    exact ⟨⟨seconds, format⟩, ⟨h, hf⟩, h', hf'⟩
  · rintro ⟨m, ⟨h, hf⟩, h', hf'⟩
    exact ⟨⟨m.seconds, h, h'⟩, m.format, hf, hf'⟩

/-- **What all pairs of a form do.** -/
theorem readAll_eq_ok : d.readAll pairs = .ok d' ↔ d.Reads pairs d' := by
  induction pairs generalizing d with
  | nil =>
    rw [reads_nil, readAll, Except.ok.injEq]
  | cons pair pairs ih =>
    rw [readAll, reads_cons]
    simp only [← read_eq_ok, ← ih]
    cases d.read pair with
    | error fault => simp
    | ok m => simp

end Draft

/-! ## What a form asks for -/

/-- Pairs ask for a profile. Of the seconds they say nothing, which stands for thirty, or one value
spells them; there is one second at least and three hundred at most. Of the format they say nothing,
which stands for the first one, or one value is the word for it. -/
structure AskedBy (pairs : List (String × String)) (p : ProfileParams) : Prop where
  seconds : Tell SpellsCount 30 (values "seconds" pairs) p.seconds
  positive : 1 ≤ p.seconds
  bounded : p.seconds ≤ 300
  format : Tell IsWordFor .protobuf (values "format" pairs) p.format

/-- A query asks for a profile by the pairs that it spells. -/
def AsksFor (query : String) (p : ProfileParams) : Prop :=
  ∃ pairs, Percent.SpellsForm (octets query) pairs ∧ AskedBy pairs p

variable {query : String}

/-- What is read is told by the values under the two names. -/
theorem ofQuery_eq_ok (hpairs : Percent.SpellsForm (octets query) pairs) :
    ofQuery query = .ok p ↔
      Tell SpellsSeconds 30 (values "seconds" pairs) p.seconds ∧
        Tell IsWordFor .protobuf (values "format" pairs) p.format := by
  have hdraft : ofQuery query = .ok p ↔ ∃ d, Draft.readAll {} pairs = .ok d ∧ d.finish = p := by
    unfold ofQuery
    rw [Percent.formDecode_eq_iff.mpr hpairs]
    cases Draft.readAll {} pairs with
    | error fault => simp [Except.map]
    | ok d => simp [Except.map]
  rw [hdraft, tell_iff, tell_iff]
  simp only [Draft.readAll_eq_ok]
  constructor
  · rintro ⟨d, ⟨hseconds, hformat⟩, rfl⟩
    exact ⟨⟨d.seconds, hseconds, rfl⟩, d.format, hformat, rfl⟩
  · rintro ⟨⟨seconds, hseconds, hs⟩, format, hformat, hf⟩
    refine ⟨⟨seconds, format⟩, ⟨hseconds, hformat⟩, ?_⟩
    rw [Draft.finish, hs, hf]

theorem inRange_iff : p.inRange = true ↔ 1 ≤ p.seconds ∧ p.seconds ≤ 300 := by
  rw [inRange, Bool.and_eq_true, decide_eq_true_eq, decide_eq_true_eq, maxSeconds]

/-- **What is read and is in range is what the form asks for.** -/
theorem accepts_iff : ofQuery query = .ok p ∧ p.inRange = true ↔ AsksFor query p := by
  rw [inRange_iff]
  constructor
  · rintro ⟨hread, hpositive, hbounded⟩
    have hpairs := Percent.formDecode_eq_iff.mp (Eq.refl (Percent.formDecode (octets query)))
    obtain ⟨hseconds, hformat⟩ := (ofQuery_eq_ok hpairs).mp hread
    refine ⟨_, hpairs, ⟨?_, hpositive, hbounded, hformat⟩⟩
    exact hseconds.imp id fun ⟨value, hvalue, hspells, _⟩ => ⟨value, hvalue, hspells⟩
  · rintro ⟨pairs, hpairs, hseconds, hpositive, hbounded, hformat⟩
    -- What is in range can be held.
    have hfits : p.seconds < wordLimit := Nat.lt_of_le_of_lt hbounded (by decide)
    refine ⟨(ofQuery_eq_ok hpairs).mpr ⟨?_, hformat⟩, hpositive, hbounded⟩
    exact hseconds.imp id fun ⟨value, hvalue, hspells⟩ => ⟨value, hvalue, hspells, hfits⟩

end ProfileParams

/-! ## Taking a profile -/

namespace Inspection

open ProfileParams (AsksFor)

variable {env : Surroundings} {incoming : Incoming} {p : ProfileParams} {profiler : Profiler}

/-- Whatever breaks becomes an internal failure. -/
def FailsInside {α : Type} (result : Except Failure α) : Prop :=
  ∀ e, result = .error e → e.kind = .internal

theorem failsInside_pure {α : Type} (x : α) : FailsInside (pure x) := by
  rintro _ ⟨⟩

theorem failsInside_orFail {ε α : Type} (doing : String) (words : ε → String)
    (result : Except ε α) : FailsInside (orFail .internal doing words result) := by
  cases result with
  | ok x => exact nofun
  | error fault =>
    rintro _ ⟨⟩
    rfl

theorem FailsInside.bind {α β : Type} {result : Except Failure α} {next : α → Except Failure β}
    (h : FailsInside result) (hnext : ∀ x, FailsInside (next x)) :
    FailsInside (result >>= next) := by
  cases result with
  | ok x => exact hnext x
  | error e =>
    rintro _ ⟨⟩
    exact h e rfl

theorem failsInside_encoded (format : ProfileFormat) : FailsInside (encoded profiler format) := by
  cases format with
  | protobuf => exact (failsInside_orFail _ _ _).bind fun _ => failsInside_orFail _ _ _
  | flamegraph => exact failsInside_orFail _ _ _

/-- A profile is unavailable if and only if the profiler does not start. -/
theorem captured_unavailable_iff :
    (∃ e, captured profiler p = .error e ∧ e.kind = .unavailable) ↔
      profiler.brokenOff? = none ∧
        ∃ fault, profiler.start sampleFrequency blocklist = .error fault := by
  unfold captured
  cases hbroken : profiler.brokenOff? with
  | some words => exact iff_of_false (by rintro ⟨_, ⟨⟩, ⟨⟩⟩) nofun
  | none =>
    dsimp only
    unfold capture
    cases hstart : profiler.start sampleFrequency blocklist with
    | error fault => exact iff_of_true ⟨_, rfl, rfl⟩ ⟨rfl, fault, rfl⟩
    | ok started =>
      refine iff_of_false ?_ nofun
      rintro ⟨e, he, hkind⟩
      have hinside : e.kind = .internal :=
        (failsInside_orFail _ _ _).bind
          (fun _ => (failsInside_encoded p.format).bind fun _ => failsInside_pure _) e he
      rw [hkind] at hinside
      cases hinside

/-- **No profile is taken beside another one.** -/
theorem captured_of_busy (h : profiler.IsBusy) :
    captured profiler p =
      .error (.unavailable "starting profiler: start running cpu profiler error") := by
  unfold captured capture
  rw [h.lasts, h.start]
  rfl

/-- The profile that is asked for is started, and nothing else is left behind. -/
theorem profile_run_asked (h : AsksFor (incoming.request.query.getD "") p) (j : Journal) :
    (profile env incoming).run j =
      (.answered (profileResponse (captured env.profile p)),
        { j with events := j.events ++ [.profileStarted p.seconds p.format.name] }) := by
  obtain ⟨hread, hrange⟩ := ProfileParams.accepts_iff.mpr h
  unfold profile
  rw [hread]
  dsimp only
  rw [if_pos hrange]
  rfl

/-- Where no profile is asked for, none is started, whatever is met outside. -/
theorem profile_run_refused (h : ∀ p, ¬ AsksFor (incoming.request.query.getD "") p) :
    ∃ r : Response, r.status = 400 ∧ ∀ env j, (profile env incoming).run j = (.answered r, j) := by
  unfold profile
  cases hread : ProfileParams.ofQuery (incoming.request.query.getD "") with
  | error fault => exact ⟨refusal fault, rfl, fun _ _ => rfl⟩
  | ok p =>
    have hrange : ¬ p.inRange = true := fun hin => h p (ProfileParams.accepts_iff.mp ⟨hread, hin⟩)
    refine ⟨outOfRange, rfl, fun env j => ?_⟩
    dsimp only
    rw [if_neg hrange]
    rfl

/-! ## Requests for a profile -/

variable {request : Request}

/-- A request for a profile is answered by its handler alone. -/
theorem serve_profile (hm : request.method = .get) (hp : request.path = "/debug/pprof/profile")
    {r : Response} {j after : Journal}
    (h : (profile env ⟨request, "/debug/pprof/profile", [], none⟩).run j = (.answered r, after)) :
    (app.serve env request).run j = (Manner.byMethod.finish .get r, after) := by
  have hroute : ⟨.bare, "/debug/pprof/profile", some .get, profile⟩ ∈ routes :=
    .tail _ (.tail _ (.head _))
  rw [App.serve_run_bare (dispatch?_of_mem env hroute (by rw [hm]; decide) hp) rfl, h, hm]
  rfl

/-- What comes of a request for which a profile is started: the start is logged, and the answer is
the profile in its format, or the failure in its place. -/
structure Started (p : ProfileParams) (env : Surroundings) (j : Journal)
    (served : Response × Journal) : Prop where
  left : served.2 = { j with events := j.events ++ [.profileStarted p.seconds p.format.name] }
  taken : ∀ body mediaType, captured env.profile p = .ok (body, mediaType) →
    served.1.status = 200 ∧ served.1.body = body ∧ served.1.headers.values contentType = [mediaType]
  failed : ∀ e, captured env.profile p = .error e → served.1.Tells e.kind e.message

/-- The log tells what a profile was asked for with. -/
theorem started_inj {p p' : ProfileParams} {events : List Event}
    (h : events ++ [.profileStarted p.seconds p.format.name] =
      events ++ [.profileStarted p'.seconds p'.format.name]) : p = p' := by
  have hevent := List.singleton_inj.mp (List.append_cancel_left h)
  obtain ⟨hseconds, hname⟩ := Event.profileStarted.inj hevent
  obtain ⟨seconds, format⟩ := p
  obtain ⟨seconds', format'⟩ := p'
  rw [ProfileParams.mk.injEq]
  exact ⟨hseconds, ProfileFormat.name_injective hname⟩

theorem started_of_asks (hm : request.method = .get) (hp : request.path = "/debug/pprof/profile")
    (h : AsksFor (request.query.getD "") p) (j : Journal) :
    Started p env j ((app.serve env request).run j) := by
  have hrun := @profile_run_asked env ⟨request, "/debug/pprof/profile", [], none⟩ p h j
  rw [serve_profile hm hp hrun]
  constructor
  case left => rfl
  case taken =>
    intro body mediaType hbody
    rw [hbody]
    exact ⟨rfl, rfl, rfl⟩
  case failed =>
    intro e he
    rw [he]
    have hget : Method.get ≠ .head := by decide
    exact (Response.tells_response e).finish .byMethod hget

/-- **Which forms ask for a profile.** A request for a profile starts one with some parameters, and
logs them, exactly if its query asks for these parameters. No other query starts anything: it has a
response with status 400 that is the same whatever is met outside, and it leaves nothing behind.
While another profile runs, a query that asks for one gets status 503 and the code 15. No request to
the inspection changes the metrics. -/
theorem profile_started_iff :
    (∀ request : Request, request.method = .get → request.path = "/debug/pprof/profile" →
      let query := request.query.getD ""
      let served (env : Surroundings) (j : Journal) := (app.serve env request).run j
      (∀ p env j, (served env j).2.events =
        j.events ++ [.profileStarted p.seconds p.format.name] ↔ AsksFor query p) ∧
      (∀ p, AsksFor query p → ∀ env j, Started p env j (served env j) ∧
        (env.profile.IsBusy → (served env j).1.status = 503 ∧
          Json.parse (served env j).1.body = .ok (.object [("code", .nat 15),
            ("message", .text "starting profiler: start running cpu profiler error")]))) ∧
      ((∀ p, ¬ AsksFor query p) → ∃ r : Response, r.status = 400 ∧
        ∀ env j, served env j = (r, j))) ∧
    ∀ env request, Action.KeepsMetrics (app.serve env request) := by
  refine ⟨fun request hm hp => ?_, keepsMetrics_serve⟩
  intro query served
  have hrefused (hnone : ∀ p, ¬ AsksFor query p) : ∃ r : Response, r.status = 400 ∧
      ∀ env j, served env j = (r, j) := by
    obtain ⟨r, hstatus, hrun⟩ :=
      @profile_run_refused ⟨request, "/debug/pprof/profile", [], none⟩ hnone
    exact ⟨Manner.byMethod.finish .get r, (Manner.finish_status _ _ _).trans hstatus,
      fun env j => serve_profile hm hp (hrun env j)⟩
  refine ⟨fun p env j => ⟨fun hevents => ?_, fun h => ?_⟩, fun p h env j => ?_, hrefused⟩
  · by_cases hasks : ∃ p', AsksFor query p'
    · obtain ⟨p', h⟩ := hasks
      rw [(started_of_asks hm hp h j).left] at hevents
      rwa [started_inj hevents] at h
    · obtain ⟨r, -, hserved⟩ := hrefused (not_exists.mp hasks)
      rw [hserved] at hevents
      exact absurd hevents (by simp)
  · rw [(started_of_asks hm hp h j).left]
  · have hstarted : Started p env j (served env j) := started_of_asks hm hp h j
    refine ⟨hstarted, fun hbusy => ?_⟩
    have htells := hstarted.failed _ (captured_of_busy hbusy)
    refine ⟨htells.status, ?_⟩
    rw [htells.body, ← Failure.body_eq_envelope]
    exact (Failure.parse_body _).2

/-- A word may be encoded, a plus sign has to be. A name that stands twice asks for nothing, even
with the same value. -/
theorem profile_started_iff_encoded :
    let asked := "x&format=fl%61megraph&seconds=%2B7"
    let refused := "seconds=7&seconds=7"
    let env : Surroundings := { Surroundings.quiet with profile := .error busy }
    let request (query : String) : Request :=
      { Request.to .get "/debug/pprof/profile" with query := some query }
    let served (query : String) := (app.serve env (request query)).run {}
    AsksFor asked ⟨7, .flamegraph⟩ ∧ (∀ p, ¬ AsksFor refused p) ∧
      (served asked).2.events = [.profileStarted 7 "Flamegraph"] ∧ (served asked).1.status = 503 ∧
      (served refused).1.status = 400 ∧ (served refused).2 = {} := by
  intro asked refused env request served
  have hasks : AsksFor asked ⟨7, .flamegraph⟩ :=
    ProfileParams.accepts_iff.mp ⟨by decide +kernel, by decide⟩
  have hrepeated : ProfileParams.ofQuery refused = .error (.repeated "seconds") := by
    decide +kernel
  have hnone : ∀ p, ¬ AsksFor refused p := by
    intro p h
    have hread := (ProfileParams.accepts_iff.mpr h).1
    rw [hrepeated] at hread
    cases hread
  obtain ⟨hstarts, hanswers, -⟩ := profile_started_iff.1 (request asked) rfl rfl
  obtain ⟨-, -, hrefuses⟩ := profile_started_iff.1 (request refused) rfl rfl
  obtain ⟨r, hstatus, hserved⟩ := hrefuses hnone
  refine ⟨hasks, hnone, (hstarts _ env {}).mpr hasks, ?_, ?_, ?_⟩
  · exact ((hanswers _ hasks env {}).2 Profiler.isBusy_error).1
  · rw [show served refused = (r, {}) from hserved env {}]
    exact hstatus
  · rw [show served refused = (r, {}) from hserved env {}]

end Inspection

end ProbeGateway
