import ProbeGateway.Proofs.Backend.Answer
import ProbeGateway.Proofs.Json.Accepting
import ProbeGateway.Proofs.Service.Endpoints

/-!
# What counts as a success of a query

A query succeeds if the body of a good answer is read as an envelope with the word for success. The
envelope is a record, and records are read from objects and from arrays: so it is the text of an
object, or an array that begins with the word (`text_of_envelope?`), and an array of the word alone
is enough (`envelope?_of_lists`). Every other answer is an internal failure, which is what the
client of a route for a metric is told (`success_is_object_or_list`).
-/

namespace ProbeGateway

namespace Query

variable {body : Bytes} {e : Envelope} {status : Nat}

/-- The text of an array that begins with a word, with some number of others behind it. -/
def Lists (word : String) (others : Nat) (body : Bytes) : Prop :=
  ∃ behind mid rest, Json.skipSpace body = 0x5B :: behind ∧
    Json.readText behind = .ok (word, mid) ∧ Json.Elements .array others false mid rest ∧
    ∀ b ∈ rest, Json.isSpace b = true

/-- A good answer with an envelope that holds the word for success. -/
def Succeeds (status : Nat) (body : Bytes) : Prop :=
  (200 ≤ status ∧ status < 300) ∧ ∃ e, envelope? body = some e ∧ e.status = "success"

/-! ## Texts of envelopes -/

theorem takesText_readData (levels : Nat) : Json.TakesText (readData levels) := by
  refine (Json.TakesText.record levels _ _ fun levels field hfield => ?_).complete _
  simp only [dataFields, List.mem_cons, List.not_mem_nil, or_false] at hfield
  rcases hfield with rfl | rfl
  · exact Json.takesText_readText.field _ _ _ _
  · exact (Json.takesText_readValue levels).field _ _ _ _

theorem takesText_fields (levels : Nat) :
    ∀ field ∈ fields levels, Json.TakesText field.read := by
  intro field hfield
  simp only [fields, List.mem_cons, List.not_mem_nil, or_false] at hfield
  rcases hfield with rfl | rfl | rfl | rfl | rfl
  · exact Json.takesText_readText.field _ _ _ _
  · exact (takesText_readData levels).optional.field _ _ _ _
  · exact Json.takesText_readText.optional.field _ _ _ _
  · exact Json.takesText_readText.optional.field _ _ _ _
  · exact (Json.TakesText.list (fun _ => Json.takesText_readText) levels).field _ _ _ _

/-- Only the first field touches the status. -/
theorem status_kept (levels : Nat) :
    ∀ field ∈ (fields levels).tail, ∀ ⦃input put rest⦄, field.read input = .ok (put, rest) →
      ∀ draft : Draft, (put draft).status = draft.status := by
  intro field hfield input put rest hread draft
  simp only [fields, List.tail_cons, List.mem_cons, List.not_mem_nil, or_false] at hfield
  rcases hfield with rfl | rfl | rfl | rfl
  all_goals
    obtain ⟨⟨x, mid⟩, -, hread⟩ := bind_eq_ok.mp hread
    cases hread
    rfl

theorem fields_optional (levels : Nat) :
    ∀ field ∈ (fields levels).tail, field.optional = true := by
  intro field hfield
  simp only [fields, List.tail_cons, List.mem_cons, List.not_mem_nil, or_false] at hfield
  rcases hfield with rfl | rfl | rfl | rfl
  all_goals rfl

theorem readText_skipSpace (input : Bytes) :
    Json.readText (Json.skipSpace input) = Json.readText input := by
  unfold Json.readText Json.readTextWith
  rw [Json.skipSpace_skipSpace]

/-- A record is read from an array behind its status. -/
theorem lists_of_readPositional {expected : String} {levels : Nat} {input rest : Bytes}
    {draft : Draft} {word : String}
    (hread : Json.readPositional expected (fields levels) 0 {} input = .ok (draft, rest))
    (hword : draft.status = some word) :
    ∃ mid, Json.readText input = .ok (word, mid) ∧
      ∃ others ≤ 4, Json.Elements .array others false mid rest := by
  cases Json.fieldRead_of_readPositional hread with
  | none hclose hfields =>
    have hnone := Json.kept_of_readPositional Draft.status expected (status_kept levels) hfields
    cases hword.symm.trans hnone
  | one hstart hfield hfields =>
    obtain ⟨⟨s, mid⟩, htext, hput⟩ := bind_eq_ok.mp hfield
    cases hput
    have hsome := Json.kept_of_readPositional Draft.status expected (status_kept levels) hfields
    cases hword.symm.trans hsome
    have hothers : ∀ field ∈ (fields levels).tail, Json.TakesText field.read :=
      fun field hfield => takesText_fields levels field (.tail _ hfield)
    obtain ⟨others, hle, helements⟩ := Json.elements_of_readPositional expected hothers hfields
    obtain ⟨before, hbegins, hspace⟩ := hstart.begins
    cases hbegins
    rw [← readText_skipSpace, ← hspace, readText_skipSpace] at htext
    exact ⟨_, htext, others, hle, helements⟩

/-- **An envelope is an object or a list.** -/
theorem text_of_envelope? (h : envelope? body = some e) :
    (∃ count, Json.IsTextOf .object count body) ∨ ∃ others ≤ 4, Lists e.status others body := by
  obtain ⟨rest, hread, hblank⟩ := envelope?_eq_some.mp h
  obtain ⟨⟨draft, mid⟩, hrecord, hfinish⟩ := bind_eq_ok.mp hread
  dsimp only at hfinish
  split at hfinish
  next e' hdraft =>
    cases hfinish
    obtain ⟨word, hword, hdraft⟩ := Option.bind_eq_some_iff.mp hdraft
    cases hdraft
    cases Json.recordRead_of_readRecord hrecord with
    | array hopen hpositional =>
      obtain ⟨mid, htext, others, hle, helements⟩ := lists_of_readPositional hpositional hword
      exact .inr ⟨others, hle, _, mid, rest, hopen, htext, helements, hblank⟩
    | @object levels _ _ _ hopen hmembers =>
      have htakes := Json.takesMember_readField (takesText_fields levels)
      obtain ⟨count, helements⟩ := Json.elements_of_readMembers htakes hmembers
      exact .inl ⟨count, _, rest, hopen, helements, hblank⟩
  · cases hfinish

/-- An array of one word is the envelope with that status and nothing else. -/
theorem envelope?_of_lists {word : String} (h : Lists word 0 body) :
    envelope? body = some ⟨word, none, none, none, []⟩ := by
  obtain ⟨behind, mid, rest, hopen, htext, helements, hblank⟩ := h
  cases helements with
  | close hclose =>
    obtain ⟨text, hspace, -⟩ := Json.quote_of_readText htext
    have hstart : Json.Starts .array behind true (0x22 :: text) := .now hspace (by decide)
    have hword : Json.readText (0x22 :: text) = .ok (word, mid) := by
      rw [← hspace, readText_skipSpace, htext]
    have hfield := Json.read_field hword "status" (fun d : Draft => d.status.isSome)
      (fun x d => { d with status := some x }) false
    have hrecord : Json.readRecord Json.maxLevels "Envelope" fields {} body =
        .ok ({ status := some word }, rest) := by
      rw [show Json.maxLevels = 126 + 1 from rfl, Json.readRecord_array hopen]
      refine (@Json.Starts.readPositional _ _ _ 0 hstart _ _ _ _).trans ?_
      rw [hfield, ok_bind]
      exact Json.readPositional_closed _ (fields_optional 126) 1 _ hclose
    refine envelope?_eq_some.mpr ⟨rest, ?_, hblank⟩
    rw [readEnvelope, Json.Reader.complete, hrecord]
    rfl

/-! ## What answers come to -/

/-- How an answer comes out: it succeeds, or it fails inside. -/
inductive ComesOut (succeeds : Prop) : Except Failure QueryOutcome → Prop
  | ok (h : succeeds) (outcome : QueryOutcome) : ComesOut succeeds (.ok outcome)
  | error (h : ¬ succeeds) {e : Failure} (hkind : e.kind = .internal) :
    ComesOut succeeds (.error e)

theorem comesOut_receive (status : Nat) (body : Bytes) :
    ComesOut (Succeeds status body) (receive (.answered status body)) := by
  have hmeans := means_receive (.answered status body)
  generalize receive (.answered status body) = result at hmeans
  cases hmeans with
  | success hbody hstatus hword => exact .ok ⟨hstatus, _, hbody, hword⟩ _
  | reported hbody h =>
    refine .error ?_ rfl
    rintro ⟨hstatus, e', hbody', hword⟩
    cases hbody.symm.trans hbody'
    rcases h with herror | hbad
    · rw [hword] at herror
      exact absurd herror (by decide)
    · exact hbad hstatus
  | refused hbody hbad => exact .error (fun h => hbad h.1) rfl
  | undecodable hbody =>
    refine .error ?_ rfl
    rintro ⟨-, e', hbody', -⟩
    cases hbody.symm.trans hbody'
  | neither hbody _ hother =>
    refine .error ?_ rfl
    rintro ⟨-, e', hbody', hword⟩
    cases hbody.symm.trans hbody'
    exact hother hword

end Query

namespace Api

/-- A request for a metric comes out as its query does. -/
theorem serve_of_comesOut {settings : ApiSettings} {env : Surroundings} {request : Request}
    {expr : String} {succeeds : Prop} (hget : request.method = .get)
    (hnames : Names request.path (.metric expr)) (hexpr : expr ≠ "")
    (hcomes : Query.ComesOut succeeds (Query.delivered settings.metricsUrl env)) (j : Journal) :
    let response := (((app settings).serve env request).run j).1
    (response.status = 200 ↔ succeeds) ∧
    (¬ succeeds → ∃ message, response.Tells .internal message) := by
  have hresult : (Question.metric expr).result settings env =
      (Query.delivered settings.metricsUrl env).map (metricJson expr) := if_neg hexpr
  have hserved := @serve_of_names _ settings env request hnames hget j
  generalize ((app settings).serve env request).run j = served at hserved
  obtain ⟨hvalue, hfailure⟩ := hserved
  revert hcomes hresult
  cases Query.delivered settings.metricsUrl env with
  | ok outcome =>
    rintro (⟨hsucceeds⟩ | _) hresult
    obtain ⟨hstatus, -⟩ := hvalue (metricJson expr outcome) hresult
    exact ⟨iff_of_true hstatus hsucceeds, fun h => absurd hsucceeds h⟩
  | error e =>
    rintro (_ | ⟨hfails, hkind⟩) hresult
    have htells := hfailure e hresult (by rw [hkind]; decide)
    rw [hkind] at htells
    have hstatus : served.1.status ≠ 200 := by
      rw [htells.status]
      decide
    exact ⟨iff_of_false hstatus hfails, fun _ => ⟨e.message, htells⟩⟩

/-- **What counts as a success of a query** is the text of an object, or an array that begins with
the word for success and has at most four others behind it; an array of the word alone does count if
the status is good. What does not count is an internal failure of the query, and a request for the
metric is answered with status 200 just if the answer of the backend counts. -/
theorem success_is_object_or_list (settings : ApiSettings) :
    (∀ status body, Query.Succeeds status body →
      (∃ count, Json.IsTextOf .object count body) ∨
        ∃ others ≤ 4, Query.Lists "success" others body) ∧
    (∀ status body, 200 ≤ status ∧ status < 300 → Query.Lists "success" 0 body →
      Query.Succeeds status body) ∧
    ∀ env status body, Query.exchanged settings.metricsUrl env = .answered status body →
      (∀ expr j, Query.ComesOut (Query.Succeeds status body)
        ((Query.run settings.metricsUrl env expr).run j).1) ∧
      ∀ expr request j, request.method = .get → Names request.path (.metric expr) → expr ≠ "" →
        let response := (((app settings).serve env request).run j).1
        (response.status = 200 ↔ Query.Succeeds status body) ∧
        (¬ Query.Succeeds status body → ∃ message, response.Tells .internal message) := by
  refine ⟨fun status body hsucceeds => ?_, fun status body hstatus hlists => ?_,
    fun env status body hanswer => ?_⟩
  · obtain ⟨-, e, hbody, hword⟩ := hsucceeds
    rw [← hword]
    exact Query.text_of_envelope? hbody
  · exact ⟨hstatus, _, Query.envelope?_of_lists hlists, rfl⟩
  have hcomes : Query.ComesOut (Query.Succeeds status body)
      (Query.delivered settings.metricsUrl env) := by
    rw [Query.delivered, hanswer]
    exact Query.comesOut_receive status body
  refine ⟨fun expr j => ?_, fun expr request j hget hnames hexpr => ?_⟩
  · rw [(Query.leaves_run settings.metricsUrl env expr).result j]
    exact hcomes
  · exact serve_of_comesOut hget hnames hexpr hcomes j

/-- An array with the word for success is no object, and a request for a metric succeeds with it. -/
theorem success_is_object_or_list_word :
    let settings : ApiSettings := ⟨"*", ⟨none, "", "", 10⟩, "http://[::1]:9090"⟩
    let body := octets "[\"success\"]"
    let env := { Surroundings.quiet with metrics := .answered 200 body }
    (∀ count, ¬ Json.IsTextOf .object count body) ∧ Query.Succeeds 200 body ∧
      (((app settings).serve env (.to .get "/api/v1/metrics/up")).run {}).1.status = 200 := by
  intro settings body env
  have hbody : body = 0x5B :: octets "\"success\"]" := by decide +kernel
  have hopen : Json.skipSpace body = 0x5B :: octets "\"success\"]" := by
    rw [hbody]
    exact Json.skipSpace_cons rfl _
  obtain ⟨-, hlists, hanswers⟩ := success_is_object_or_list settings
  have hsucceeds : Query.Succeeds 200 body := by
    refine hlists 200 body (by decide) ⟨_, [0x5D], [], hopen, by decide +kernel, ?_, nofun⟩
    exact .close (by decide +kernel)
  have hexchanged : Query.exchanged settings.metricsUrl env = .answered 200 body := by
    decide +kernel
  have hsegment : (Percent.segmentText? "up").getD "" = "up" := by decide +kernel
  have hnames : Names "/api/v1/metrics/up" (.metric "up") := by
    have hmetric := Names.metric "up"
    rw [hsegment] at hmetric
    exact hmetric
  obtain ⟨-, hmetric⟩ := hanswers env 200 body hexchanged
  obtain ⟨hstatus, -⟩ := hmetric "up" (.to .get "/api/v1/metrics/up") {} rfl hnames (by decide)
  refine ⟨?_, hsucceeds, hstatus.mpr hsucceeds⟩
  rintro count ⟨behind, rest, hobject, -, -⟩
  cases hopen.symm.trans hobject

end Api

end ProbeGateway
