import ProbeGateway.Proofs.Config.Values

/-!
# What a configuration is read from

1. A configuration is read just if it holds what the variables mean (`Config.Holds`), and there is
   one just if the checked variables mean something each (`Config.load_eq_ok`,
   `Config.exists_holds_iff`).
2. Otherwise the first of the checked variables that means nothing is reported
   (`Config.refusedFirst_of_load`). A default always means something, so what is reported was given
   (`Config.legal_default`).
3. A variable that is blank may as well be absent, the credentials apart, and no other variable
   counts (`Config.load_of_reduces`).
-/

namespace ProbeGateway.Config

/-! ## The checked variables -/

/-- A variable whose value is checked. -/
structure Checked where
  name : String
  /-- The value that stands where none is given. -/
  default : String
  /-- The texts that mean something. -/
  Legal : String → Prop

/-- The checked variables, in the order in which they are checked. -/
def checkedVariables : List Checked := [
  ⟨"API_HOST", "0.0.0.0:8080", fun s => ∃ a, IsAddress s a⟩,
  ⟨"DEBUG_HOST", "0.0.0.0:4000", fun s => ∃ a, IsAddress s a⟩,
  ⟨"CORS_ORIGIN", "*", fun s => ∃ value, IsHeaderValue s value⟩,
  ⟨"BACKEND_TIMEOUT_SECS", "10", fun s => ∃ n, IsSeconds s n⟩,
  ⟨"SHUTDOWN_TIMEOUT_SECS", "20", fun s => ∃ n, IsSeconds s n⟩,
  ⟨"OTEL_PROBABILITY", "0.05", fun s => ∃ x, IsProbability s x⟩,
  ⟨"LOG_FORMAT", "json", fun s => ∃ f, IsFormat s f⟩]

/-- What stands for a checked variable means something. -/
def Checked.Passes (lookup : Lookup) (v : Checked) : Prop :=
  ∃ s, Stands lookup v.name v.default s ∧ v.Legal s

/-- A configuration holds what the variables mean: the checked ones by their values, the credentials
as they stand, and the other ones unless they are blank. -/
structure Holds (lookup : Lookup) (config : Config) : Prop where
  apiHost : ∃ s, Stands lookup "API_HOST" "0.0.0.0:8080" s ∧ IsAddress s config.apiHost
  debugHost : ∃ s, Stands lookup "DEBUG_HOST" "0.0.0.0:4000" s ∧ IsAddress s config.debugHost
  corsOrigin : ∃ s, Stands lookup "CORS_ORIGIN" "*" s ∧ IsHeaderValue s config.corsOrigin
  backendTimeout :
    ∃ s, Stands lookup "BACKEND_TIMEOUT_SECS" "10" s ∧ IsSeconds s config.backendTimeout
  shutdownTimeout :
    ∃ s, Stands lookup "SHUTDOWN_TIMEOUT_SECS" "20" s ∧ IsSeconds s config.shutdownTimeout
  probability : ∃ s, Stands lookup "OTEL_PROBABILITY" "0.05" s ∧ IsProbability s config.probability
  logFormat : ∃ s, Stands lookup "LOG_FORMAT" "json" s ∧ IsFormat s config.logFormat
  rulesUrl : ∀ s, config.rules.url = some s ↔ Given lookup "GRAFANA_URL" s
  rulesUser : config.rules.user = (lookup "GRAFANA_USER").getD "admin"
  rulesPassword : config.rules.password = (lookup "GRAFANA_PASSWORD").getD "admin"
  /-- Both backends are given up after one time. -/
  rulesTimeout : config.rules.timeout = config.backendTimeout
  metricsUrl : Stands lookup "PROMETHEUS_URL" "http://localhost:9090" config.metricsUrl
  reporterUri : ∀ s, config.reporterUri = some s ↔ Given lookup "OTEL_REPORTER_URI" s

variable {lookup other : Lookup} {config : Config} {e : ConfigError}

/-! ## Configurations that are read -/

/-- A reader that goes on and succeeds has read what the variable means. -/
theorem Reads.bind_eq_ok {α β : Type} {read : String → String → Except ConfigError α}
    {Means : String → α → Prop} (h : Reads read Means) {name default : String}
    {f : α → Except ConfigError β} {b : β} :
    (read name (settingOr lookup name default) >>= f) = .ok b ↔
      ∃ x, (∃ s, Stands lookup name default s ∧ Means s x) ∧ f x = .ok b := by
  rw [ProbeGateway.bind_eq_ok]
  refine exists_congr fun x => and_congr_left fun _ => ?_
  rw [h.ok_iff]
  constructor
  · exact fun hx => ⟨_, stands_iff.mpr rfl, hx⟩
  · rintro ⟨s, hs, hx⟩
    rwa [stands_iff.mp hs]

theorem setting_eq_iff {name : String} {value : Option String} :
    setting lookup name = value ↔ ∀ s, value = some s ↔ Given lookup name s := by
  constructor
  · rintro rfl s
    exact setting_eq_some
  · intro h
    apply Option.ext
    intro s
    rw [setting_eq_some, h s]

/-- **A configuration is read if it holds what the variables mean.** -/
theorem load_eq_ok : load lookup = .ok config ↔ Holds lookup config := by
  constructor
  · intro h
    obtain ⟨apiHost, hapi, h⟩ := reads_address.bind_eq_ok.mp h
    obtain ⟨debugHost, hdebug, h⟩ := reads_address.bind_eq_ok.mp h
    obtain ⟨corsOrigin, hcors, h⟩ := reads_headerValue.bind_eq_ok.mp h
    obtain ⟨backendTimeout, hbackend, h⟩ := reads_seconds.bind_eq_ok.mp h
    obtain ⟨shutdownTimeout, hshutdown, h⟩ := reads_seconds.bind_eq_ok.mp h
    obtain ⟨probability, hprobability, h⟩ := reads_share.bind_eq_ok.mp h
    obtain ⟨logFormat, hformat, h⟩ := reads_logFormat.bind_eq_ok.mp h
    obtain rfl := Except.ok.inj h
    exact {
      apiHost := hapi
      debugHost := hdebug
      corsOrigin := hcors
      backendTimeout := hbackend
      shutdownTimeout := hshutdown
      probability := hprobability
      logFormat := hformat
      rulesUrl := setting_eq_iff.mp rfl
      rulesUser := rfl
      rulesPassword := rfl
      rulesTimeout := rfl
      metricsUrl := stands_iff.mpr rfl
      reporterUri := setting_eq_iff.mp rfl }
  · intro h
    refine reads_address.bind_eq_ok.mpr ⟨_, h.apiHost, ?_⟩
    refine reads_address.bind_eq_ok.mpr ⟨_, h.debugHost, ?_⟩
    refine reads_headerValue.bind_eq_ok.mpr ⟨_, h.corsOrigin, ?_⟩
    refine reads_seconds.bind_eq_ok.mpr ⟨_, h.backendTimeout, ?_⟩
    refine reads_seconds.bind_eq_ok.mpr ⟨_, h.shutdownTimeout, ?_⟩
    refine reads_share.bind_eq_ok.mpr ⟨_, h.probability, ?_⟩
    refine reads_logFormat.bind_eq_ok.mpr ⟨_, h.logFormat, ?_⟩
    have hrules : RulesBackend.mk (setting lookup "GRAFANA_URL")
        ((lookup "GRAFANA_USER").getD "admin") ((lookup "GRAFANA_PASSWORD").getD "admin")
        config.backendTimeout = config.rules := by
      rw [setting_eq_iff.mpr h.rulesUrl, ← h.rulesUser, ← h.rulesPassword, ← h.rulesTimeout]
    rw [hrules, stands_iff.mp h.metricsUrl, setting_eq_iff.mpr h.reporterUri]

/-! ## Configurations that are refused -/

/-- An error reports the first variable of a list for which something stands that means nothing,
with its text. -/
inductive RefusedFirst (lookup : Lookup) (e : ConfigError) : List Checked → Prop
  | here {v : Checked} {later : List Checked} (hname : e.name = v.name)
      (hvalue : Stands lookup v.name v.default e.value) (hillegal : ¬ v.Legal e.value) :
      RefusedFirst lookup e (v :: later)
  | later {v : Checked} {later : List Checked} (hpasses : v.Passes lookup)
      (h : RefusedFirst lookup e later) : RefusedFirst lookup e (v :: later)

/-- A reader that goes on and fails has refused the text of the variable, or has gone on from what
it means. -/
theorem Reads.refusedFirst {α β : Type} {read : String → String → Except ConfigError α}
    {Means : String → α → Prop} (h : Reads read Means) {name default : String}
    {f : α → Except ConfigError β} {later : List Checked}
    (he : (read name (settingOr lookup name default) >>= f) = .error e)
    (hlater : ∀ x, f x = .error e → RefusedFirst lookup e later) :
    RefusedFirst lookup e (⟨name, default, fun s => ∃ x, Means s x⟩ :: later) := by
  cases hread : read name (settingOr lookup name default) with
  | error refusal =>
    rw [hread] at he
    obtain rfl := Except.error.inj he
    obtain ⟨hname, hvalue⟩ := h.refused hread
    refine .here hname (stands_iff.mpr hvalue.symm) ?_
    rintro ⟨x, hx⟩
    rw [hvalue] at hx
    rw [h.ok_iff.mpr hx] at hread
    cases hread
  | ok x =>
    rw [hread] at he
    exact .later ⟨_, stands_iff.mpr rfl, x, h.ok_iff.mp hread⟩ (hlater x he)

theorem refusedFirst_of_load (h : load lookup = .error e) :
    RefusedFirst lookup e checkedVariables := by
  refine reads_address.refusedFirst h fun apiHost h => ?_
  refine reads_address.refusedFirst h fun debugHost h => ?_
  refine reads_headerValue.refusedFirst h fun corsOrigin h => ?_
  refine reads_seconds.refusedFirst h fun backendTimeout h => ?_
  refine reads_seconds.refusedFirst h fun shutdownTimeout h => ?_
  refine reads_share.refusedFirst h fun probability h => ?_
  refine reads_logFormat.refusedFirst h fun logFormat h => ?_
  cases h

theorem Stands.unique {name default s t : String} (hs : Stands lookup name default s)
    (ht : Stands lookup name default t) : s = t :=
  (stands_iff.mp hs).symm.trans (stands_iff.mp ht)

theorem RefusedFirst.not_passes {vs : List Checked} (h : RefusedFirst lookup e vs) :
    ∃ v ∈ vs, ¬ v.Passes lookup := by
  induction h with
  | @here v later hname hvalue hillegal =>
    refine ⟨v, .head _, ?_⟩
    rintro ⟨s, hs, hlegal⟩
    rw [hs.unique hvalue] at hlegal
    exact hillegal hlegal
  | later _ _ ih =>
    obtain ⟨v, hv, hpasses⟩ := ih
    exact ⟨v, .tail _ hv, hpasses⟩

/-- A configuration is held by the variables if each of the checked ones means something. -/
theorem exists_holds_iff :
    (∃ config, Holds lookup config) ↔ ∀ v ∈ checkedVariables, v.Passes lookup := by
  constructor
  · rintro ⟨config, h⟩
    have passes {α : Type} {name default : String} {Means : String → α → Prop} {x : α}
        (hx : ∃ s, Stands lookup name default s ∧ Means s x) :
        Checked.Passes lookup ⟨name, default, fun s => ∃ x, Means s x⟩ := by
      obtain ⟨s, hs, hmeans⟩ := hx
      exact ⟨s, hs, x, hmeans⟩
    intro v hv
    simp only [checkedVariables, List.mem_cons, List.not_mem_nil, or_false] at hv
    rcases hv with rfl | rfl | rfl | rfl | rfl | rfl | rfl
    · exact passes h.apiHost
    · exact passes h.debugHost
    · exact passes h.corsOrigin
    · exact passes h.backendTimeout
    · exact passes h.shutdownTimeout
    · exact passes h.probability
    · exact passes h.logFormat
  · intro h
    cases hload : load lookup with
    | ok config => exact ⟨config, load_eq_ok.mp hload⟩
    | error e =>
      obtain ⟨v, hv, hpasses⟩ := (refusedFirst_of_load hload).not_passes
      exact absurd (h v hv) hpasses

theorem Reads.legal {α : Type} {read : String → String → Except ConfigError α}
    {Means : String → α → Prop} (h : Reads read Means) (name : String) {s : String}
    (hok : (read name s).isOk = true) : ∃ x, Means s x := by
  cases hread : read name s with
  | error e =>
    rw [hread] at hok
    cases hok
  | ok x => exact ⟨x, h.ok_iff.mp hread⟩

/-- Every default means something. -/
theorem legal_default {v : Checked} (h : v ∈ checkedVariables) : v.Legal v.default := by
  simp only [checkedVariables, List.mem_cons, List.not_mem_nil, or_false] at h
  rcases h with rfl | rfl | rfl | rfl | rfl | rfl | rfl
  · exact reads_address.legal "API_HOST" (by decide +kernel)
  · exact reads_address.legal "DEBUG_HOST" (by decide +kernel)
  · exact reads_headerValue.legal "CORS_ORIGIN" (by decide +kernel)
  · exact reads_seconds.legal "BACKEND_TIMEOUT_SECS" (by decide +kernel)
  · exact reads_seconds.legal "SHUTDOWN_TIMEOUT_SECS" (by decide +kernel)
  · exact reads_share.legal "OTEL_PROBABILITY" (by decide +kernel)
  · exact reads_logFormat.legal "LOG_FORMAT" (by decide +kernel)

/-- What is reported was given. -/
theorem RefusedFirst.given {vs : List Checked} (h : RefusedFirst lookup e vs)
    (hdefaults : ∀ v ∈ vs, v.Legal v.default) : Given lookup e.name e.value := by
  induction h with
  | here hname hvalue hillegal =>
    rw [hname]
    rcases hvalue with hgiven | ⟨-, hdefault⟩
    · exact hgiven
    · rw [hdefault] at hillegal
      exact absurd (hdefaults _ (.head _)) hillegal
  | later _ _ ih => exact ih fun v hv => hdefaults v (.tail _ hv)

/-! ## Variables that make no difference -/

/-- The credentials, which count even where they are blank. -/
def credentials : List String := ["GRAFANA_USER", "GRAFANA_PASSWORD"]

/-- The variables that a configuration is read from. -/
def variableNames : List String :=
  checkedVariables.map (·.name) ++ credentials ++
    ["GRAFANA_URL", "PROMETHEUS_URL", "OTEL_REPORTER_URI"]

/-- The variables that count have the same values, but that some which were blank are absent, the
credentials apart. -/
def Reduces (lookup other : Lookup) : Prop :=
  ∀ name ∈ variableNames, other name = lookup name ∨
    name ∉ credentials ∧ other name = none ∧ ∃ s, lookup name = some s ∧ Blank s

theorem Reduces.setting_eq (h : Reduces lookup other) {name : String}
    (hname : name ∈ variableNames) :
    setting other name = setting lookup name := by
  unfold setting
  rcases h name hname with hsame | ⟨-, hnone, s, hs, hblank⟩
  · rw [hsame]
  · rw [hnone, hs, Option.filter_some, isAllBlank_iff.mpr hblank]
    rfl

theorem Reduces.credential (h : Reduces lookup other) {name : String} (hname : name ∈ credentials) :
    other name = lookup name := by
  have hmem : name ∈ variableNames :=
    List.mem_append_left _ (List.mem_append_right _ hname)
  rcases h name hmem with hsame | ⟨hnot, -⟩
  · exact hsame
  · exact absurd hname hnot

theorem load_of_reduces (h : Reduces lookup other) : load other = load lookup := by
  have hlisted (name : String) (hname : name ∈ variableNames) :
      setting other name = setting lookup name := h.setting_eq hname
  simp only [variableNames, checkedVariables, credentials, List.map_cons, List.map_nil,
    List.cons_append, List.nil_append, List.forall_mem_cons] at hlisted
  obtain ⟨hapi, hdebug, hcors, hbackend, hshutdown, hprobability, hformat, -, -, hrules, hmetrics,
    hreporter, -⟩ := hlisted
  have huser : other "GRAFANA_USER" = lookup "GRAFANA_USER" := h.credential (.head _)
  have hpassword : other "GRAFANA_PASSWORD" = lookup "GRAFANA_PASSWORD" :=
    h.credential (.tail _ (.head _))
  unfold load settingOr
  dsimp only
  rw [hapi, hdebug, hcors, hbackend, hshutdown, hprobability, hformat, hrules, hmetrics, hreporter,
    huser, hpassword]

/-! ## The whole of it -/

/-- **What is accepted as a configuration.** There is a configuration just if what stands for every
checked variable means something: the text given, or the default if the variable is absent or blank.
It then holds what the variables mean and nothing else. Otherwise the error has the name and the
text of the first checked variable whose text means nothing, and that text was given. A variable
that is blank may as well be absent unless it is a credential, and variables of other names make no
difference. -/
theorem accepted_configurations (lookup : Lookup) :
    ((∃ config, load lookup = .ok config) ↔ ∀ v ∈ checkedVariables, v.Passes lookup) ∧
      (∀ config, load lookup = .ok config ↔ Holds lookup config) ∧
      (∀ e, load lookup = .error e →
        RefusedFirst lookup e checkedVariables ∧ lookup e.name = some e.value) ∧
      ∀ other, Reduces lookup other → load other = load lookup := by
  refine ⟨?_, fun config => load_eq_ok, fun e h => ?_, fun other h => load_of_reduces h⟩
  · rw [← exists_holds_iff]
    exact exists_congr fun config => load_eq_ok
  · have hrefused := refusedFirst_of_load h
    exact ⟨hrefused, (hrefused.given fun v hv => legal_default hv).1⟩

/-- Variables of which one is blank, two are refused and one counts for nothing. -/
def sampleLookup : Lookup
  | "API_HOST" => some "\u3000\t"
  | "CORS_ORIGIN" => some "http://a\nb"
  | "BACKEND_TIMEOUT_SECS" => some "+18446744073709551615"
  | "OTEL_PROBABILITY" => some "-NaN"
  | "HOME" => some "/root"
  | _ => none

/-- The same variables without the blank one and the one that counts for nothing. -/
def sampleReduced : Lookup
  | "CORS_ORIGIN" => some "http://a\nb"
  | "BACKEND_TIMEOUT_SECS" => some "+18446744073709551615"
  | "OTEL_PROBABILITY" => some "-NaN"
  | _ => none

/-- Variables that all have values, none of them its default. -/
def givenLookup : Lookup
  | "API_HOST" => some "127.0.0.1:80"
  | "DEBUG_HOST" => some "[::1]:4001"
  | "CORS_ORIGIN" => some " http://a "
  | "GRAFANA_URL" => some "http://b/"
  | "GRAFANA_USER" => some " "
  | "GRAFANA_PASSWORD" => some ""
  | "PROMETHEUS_URL" => some "http://c"
  | "BACKEND_TIMEOUT_SECS" => some "+007"
  | "SHUTDOWN_TIMEOUT_SECS" => some "18446744073709551615"
  | "OTEL_REPORTER_URI" => some "http://d"
  | "OTEL_PROBABILITY" => some ".5"
  | "LOG_FORMAT" => some "TEXT"
  | _ => none

/-- What they are read as: texts as they stand, blank credentials too. -/
def givenConfig : Config where
  apiHost := ⟨.v4 [127, 0, 0, 1], 80⟩
  debugHost := ⟨.v6 [0, 0, 0, 0, 0, 0, 0, 1] 0, 4001⟩
  corsOrigin := " http://a "
  rules := ⟨some "http://b/", " ", "", 7⟩
  metricsUrl := "http://c"
  backendTimeout := 7
  shutdownTimeout := 18446744073709551615
  reporterUri := some "http://d"
  probability := .ofRatio false 1 2
  logFormat := .text

/-- Of two variables that are refused, the first is reported, and the blank one is not needed. Where
every variable has a value of its own and none is refused, the configuration holds these. -/
theorem accepted_configurations_sample :
    load sampleLookup = .error ⟨"CORS_ORIGIN", "http://a\nb", .notHeaderValue⟩ ∧
      RefusedFirst sampleLookup ⟨"CORS_ORIGIN", "http://a\nb", .notHeaderValue⟩ checkedVariables ∧
      Reduces sampleLookup sampleReduced ∧ load sampleReduced = load sampleLookup ∧
      load givenLookup = .ok givenConfig ∧ Holds givenLookup givenConfig ∧
      ∀ v ∈ checkedVariables, v.Passes givenLookup := by
  have hload : load sampleLookup =
      .error ⟨"CORS_ORIGIN", "http://a\nb", .notHeaderValue⟩ := by decide +kernel
  have hblank : Blank "\u3000\t" := isAllBlank_iff.mp (by decide +kernel)
  have hreduces : Reduces sampleLookup sampleReduced := by
    intro name hname
    simp only [variableNames, checkedVariables, credentials, List.map_cons, List.map_nil,
      List.cons_append, List.nil_append, List.mem_cons, List.not_mem_nil, or_false] at hname
    rcases hname with rfl | rfl | rfl | rfl | rfl | rfl | rfl | rfl | rfl | rfl | rfl | rfl
    · exact .inr ⟨by decide, rfl, _, rfl, hblank⟩
    all_goals exact .inl rfl
  obtain ⟨-, -, hrefused, hsame⟩ := accepted_configurations sampleLookup
  have hgiven : load givenLookup = .ok givenConfig := by decide +kernel
  obtain ⟨hpasses, hholds, -, -⟩ := accepted_configurations givenLookup
  exact ⟨hload, (hrefused _ hload).1, hreduces, hsame _ hreduces, hgiven,
    (hholds givenConfig).mp hgiven, hpasses.mp ⟨givenConfig, hgiven⟩⟩

end ProbeGateway.Config
