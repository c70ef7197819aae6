import ProbeGateway.Proofs.Health.Views
import ProbeGateway.Proofs.Json.Value

/-!
# What a fetch of the rules comes to

A fetch brings a payload, or fails with a kind. Which of these happens is told by the base address
and by the exchange (`Fetched`), and the cases exclude each other (`fetched_iff`).

1. A body is a payload if an object or `null` is read from it and nothing but blanks stands around
   that (`payloadOf_eq_ok`). Any other body is an internal failure.
2. An exchange is judged by its status before its body is looked at (`Received`).
3. A fetch without a base address leaves nothing. Any other leaves one record of the backend and, if
   it failed, one event (`traced_fetch`).
4. The three operations of a store fail alike or all walk the payload (`fetch_classified`).
-/

namespace ProbeGateway

/-- One of the three operations of a store, begun with one journal, ends with another. -/
inductive HealthStore.Runs (store : HealthStore) (j : Journal) : Journal → Prop
  | checks : Runs store j (store.checks.run j).2
  | check (target : String) : Runs store j ((store.check target).run j).2
  | alerts : Runs store j (store.alerts.run j).2

namespace RulesStore

/-! ## Payloads -/

/-- A body decodes to a payload: an object or `null`, with nothing but blanks around it. -/
structure Decodes (body : Bytes) (payload : Json) : Prop where
  read : ∃ rest, Json.readValue Json.maxLevels body = .ok (payload, rest) ∧
    ∀ b ∈ rest, Json.isSpace b
  shape : payload = .null ∨ ∃ members, payload = .object members

variable {body : Bytes} {payload : Json}

theorem payloadOf_eq_ok : payloadOf body = .ok payload ↔ Decodes body payload := by
  have hparse : Json.parse body = .ok payload ↔ ∃ rest,
      Json.readValue Json.maxLevels body = .ok (payload, rest) ∧ ∀ b ∈ rest, Json.isSpace b :=
    Json.parseWith_eq_ok
  unfold payloadOf
  constructor
  · intro h
    split at h
    · next members hbody =>
      cases h
      exact ⟨hparse.mp hbody, .inr ⟨members, rfl⟩⟩
    · next hbody =>
      cases h
      exact ⟨hparse.mp hbody, .inl rfl⟩
    · cases h
    · cases h
  · rintro ⟨hread, rfl | ⟨members, rfl⟩⟩
    · rw [hparse.mpr hread]
    · rw [hparse.mpr hread]

theorem kind_of_payloadOf {e : Failure} (h : payloadOf body = .error e) : e.kind = .internal := by
  unfold payloadOf at h
  split at h
  all_goals cases h
  all_goals rfl

/-! ## Exchanges -/

/-- What comes of an exchange: the payload, or a kind of failure. -/
inductive Received : Exchange → Except ErrorKind Json → Prop
  | late {seen : Bool} {fault : TransportFault} (h : fault.timedOut = true) :
    Received (.failed seen fault) (.error .deadlineExceeded)
  | unreached {seen : Bool} {fault : TransportFault} (h : fault.timedOut = false) :
    Received (.failed seen fault) (.error .unavailable)
  | refused {status : Nat} {body : Bytes} (h : ¬ (200 ≤ status ∧ status < 300)) :
    Received (.answered status body) (.error .unavailable)
  /-- The status is enough, however the body broke off. -/
  | refusedBrokenOff {status : Nat} {fault : TransportFault}
      (h : ¬ (200 ≤ status ∧ status < 300)) :
    Received (.brokenOff status fault) (.error .unavailable)
  | lateBody {status : Nat} {fault : TransportFault} (h : 200 ≤ status ∧ status < 300)
      (hfault : fault.timedOut = true) :
    Received (.brokenOff status fault) (.error .deadlineExceeded)
  | brokenBody {status : Nat} {fault : TransportFault} (h : 200 ≤ status ∧ status < 300)
      (hfault : fault.timedOut = false) :
    Received (.brokenOff status fault) (.error .unavailable)
  | undecodable {status : Nat} {body : Bytes} (h : 200 ≤ status ∧ status < 300)
      (hbody : ∀ payload, ¬ Decodes body payload) :
    Received (.answered status body) (.error .internal)
  | decoded {status : Nat} {body : Bytes} {payload : Json} (h : 200 ≤ status ∧ status < 300)
      (hbody : Decodes body payload) :
    Received (.answered status body) (.ok payload)

/-- A result with no more than the kind of its failure. -/
def kindOf (result : Except Failure Json) : Except ErrorKind Json := result.mapError (·.kind)

theorem kind_failure (fault : TransportFault) (purpose : String) :
    (fault.failure purpose).kind =
      if fault.timedOut then .deadlineExceeded else .unavailable := rfl

theorem received_receive (exchange : Exchange) : Received exchange (kindOf (receive exchange)) := by
  unfold receive
  cases exchange with
  | failed seen fault =>
    rw [kindOf, Except.mapError, kind_failure]
    split
    · next hfault => exact .late hfault
    · next hfault => exact .unreached (Bool.eq_false_iff.mpr hfault)
  | brokenOff status fault =>
    dsimp only
    split
    · next h =>
      have hstatus := Http.isSuccess_iff.mp h
      rw [kindOf, Except.mapError, kind_failure]
      split
      · next hfault => exact .lateBody hstatus hfault
      · next hfault => exact .brokenBody hstatus (Bool.eq_false_iff.mpr hfault)
    · next h => exact .refusedBrokenOff fun hstatus => h (Http.isSuccess_iff.mpr hstatus)
  | answered status body =>
    dsimp only
    split
    · next h =>
      have hstatus := Http.isSuccess_iff.mp h
      cases hbody : payloadOf body with
      | ok payload => exact .decoded hstatus (payloadOf_eq_ok.mp hbody)
      | error e =>
        rw [kindOf, Except.mapError, kind_of_payloadOf hbody]
        refine .undecodable hstatus fun payload hdecodes => ?_
        rw [payloadOf_eq_ok.mpr hdecodes] at hbody
        cases hbody
    · next h => exact .refused fun hstatus => h (Http.isSuccess_iff.mpr hstatus)

/-- An exchange comes to one thing only. -/
theorem Received.unique {exchange : Exchange} {result result' : Except ErrorKind Json}
    (h : Received exchange result) (h' : Received exchange result') : result = result' := by
  have hdecoded {body : Bytes} {payload payload' : Json} (hbody : Decodes body payload)
      (hbody' : Decodes body payload') : payload = payload' :=
    Except.ok.inj ((payloadOf_eq_ok.mpr hbody).symm.trans (payloadOf_eq_ok.mpr hbody'))
  cases h <;> cases h' <;> grind

/-! ## Fetches -/

variable {backend : RulesBackend} {env : Surroundings}

/-- There is no base address to call. -/
def Unset (backend : RulesBackend) : Prop := backend.url = none ∨ backend.url = some ""

/-- What comes of a fetch: the payload, or a kind of failure. -/
inductive Fetched (backend : RulesBackend) (env : Surroundings) : Except ErrorKind Json → Prop
  | unset (h : Unset backend) : Fetched backend env (.error .unavailable)
  | called {base : String} {result : Except ErrorKind Json} (hurl : backend.url = some base)
      (hne : base ≠ "") (h : Received (exchanged env (Url.under base rulesPath)) result) :
    Fetched backend env result

theorem base?_eq_none : base? backend = none ↔ Unset backend := by
  unfold base? Unset
  cases backend.url with
  | none => simp
  | some url => simp

theorem base?_eq_some {base : String} :
    base? backend = some base ↔ backend.url = some base ∧ base ≠ "" := by
  unfold base?
  simp [Option.filter_eq_some_iff]

theorem fetched_delivered : Fetched backend env (kindOf (delivered backend env)) := by
  unfold delivered
  cases hbase : base? backend with
  | none => exact .unset (base?_eq_none.mp hbase)
  | some base =>
    obtain ⟨hurl, hne⟩ := base?_eq_some.mp hbase
    exact .called hurl hne (received_receive _)

/-- A fetch comes to what its address and its exchange tell, and to nothing else. -/
theorem fetched_iff {result : Except ErrorKind Json} :
    Fetched backend env result ↔ result = kindOf (delivered backend env) := by
  constructor
  · intro h
    unfold delivered
    cases h with
    | unset h =>
      rw [base?_eq_none.mpr h]
      rfl
    | called hurl hne h =>
      rw [base?_eq_some.mpr ⟨hurl, hne⟩]
      exact h.unique (received_receive _)
  · rintro rfl
    exact fetched_delivered

/-! ## Traces -/

/-- Metrics with one more call of the backend, and its outcome. -/
def recorded (env : Surroundings) (outcome : String) : Metrics → Metrics :=
  .recordBackend Backend.rules.name Backend.rules.endpoint outcome env.elapsed

/-- What a fetch with a result leaves behind, from one journal to the next. -/
inductive Traced (backend : RulesBackend) (env : Surroundings) (j after : Journal) :
    Except Failure Json → Prop
  | uncalled {e : Failure} (h : Unset backend) (unchanged : after = j) :
    Traced backend env j after (.error e)
  | brought {payload : Json} (h : ¬ Unset backend)
      (metrics : after.metrics = recorded env "success" j.metrics)
      (events : after.events = j.events) :
    Traced backend env j after (.ok payload)
  | failed {e : Failure} {address : String} {event : Event} (h : ¬ Unset backend)
      (metrics : after.metrics = recorded env e.kind.name j.metrics)
      (events : after.events = j.events ++ [event])
      (tells : event = .rulesCallFailed address e) (level : event.level = .debug) :
    Traced backend env j after (.error e)

theorem call_keeps (backend : RulesBackend) (env : Surroundings) (address : String) (j : Journal) :
    ((call backend env address).run j).2.metrics = j.metrics ∧
      ((call backend env address).run j).2.events = j.events := by
  unfold call
  cases Url.parse? address with
  | none => exact ⟨rfl, rfl⟩
  | some url => exact ⟨rfl, rfl⟩

theorem fetch_of_base {base : String} (h : base? backend = some base) :
    fetch backend env = (call backend env (Url.under base rulesPath) >>= fun result =>
      Journal.count (recorded env (Metrics.outcome result)) >>= fun _ =>
        logFailure (Url.under base rulesPath) result >>= fun _ => pure result) := by
  unfold fetch
  rw [h]
  rfl

theorem logFailure_ok (address : String) (payload : Json) (j : Journal) :
    (logFailure address (.ok payload)).run j = ((), j) := rfl

theorem logFailure_error (address : String) (e : Failure) (j : Journal) :
    (logFailure address (.error e)).run j =
      ((), { j with events := j.events ++ [.rulesCallFailed address e] }) := rfl

theorem traced_fetch (j : Journal) :
    Traced backend env j ((fetch backend env).run j).2 (delivered backend env) := by
  cases hbase : base? backend with
  | none =>
    rw [fetch, delivered, hbase]
    exact .uncalled (base?_eq_none.mp hbase) rfl
  | some base =>
    have hset : ¬ Unset backend := fun h => by
      rw [base?_eq_none.mpr h] at hbase
      cases hbase
    obtain ⟨hmetrics, hevents⟩ := call_keeps backend env (Url.under base rulesPath) j
    rw [fetch_of_base hbase, delivered, hbase, Action.run_bind, call_run, Action.run_bind,
      Journal.run_count, Action.run_bind]
    dsimp only
    rw [hmetrics, hevents]
    cases receive (exchanged env (Url.under base rulesPath)) with
    | ok payload =>
      rw [logFailure_ok]
      exact .brought hset rfl rfl
    | error e =>
      rw [logFailure_error]
      exact .failed hset rfl rfl rfl rfl

/-! ## Operations -/

/-- The three operations of a store agree on a result: they fail with its failure, or answer from
its payload. -/
inductive Concur (store : HealthStore) (now : Instant) : Except Failure Json → Prop
  | failed {e : Failure} (checks : ∀ j, (store.checks.run j).1 = .error e)
      (alerts : ∀ j, (store.alerts.run j).1 = .error e)
      (check : ∀ target j, ((store.check target).run j).1 = .error e) :
    Concur store now (.error e)
  | walked {payload : Json}
      (answers : store.Answers (checksOf now payload) (alertsOf payload) fun target =>
        checkOf now target payload)
      (absent : ∀ target e, checkOf now target payload = .error e → e.kind = .notFound) :
    Concur store now (.ok payload)

theorem concur_store : Concur (store backend env) env.now (delivered backend env) := by
  cases hdelivered : delivered backend env with
  | ok payload =>
    refine .walked (answers_of_delivered hdelivered) fun target e h => ?_
    obtain ⟨rfl, -⟩ := (checkOf_eq_error _ _).mp h
    rfl
  | error e =>
    refine .failed (fun j => ?_) (fun j => ?_) fun target j => ?_
    · rw [checks_run, hdelivered]
      rfl
    · rw [alerts_run, hdelivered]
      rfl
    · rw [check_run, hdelivered]
      rfl

theorem traced_store {j after : Journal} (h : (store backend env).Runs j after) :
    Traced backend env j after (delivered backend env) := by
  -- What an operation does with the payload leaves nothing behind.
  cases h with
  | checks => exact traced_fetch j
  | check target => exact traced_fetch j
  | alerts => exact traced_fetch j

/-- **A fetch is classified.** All three operations of a store fail alike or walk one payload.
Whether there is a payload, and which kind of failure there is otherwise, is told by the address and
by the exchange. Each operation leaves one record of the backend with that outcome, and one event if
it failed, and leaves nothing if there is no address. -/
theorem fetch_classified (backend : RulesBackend) (env : Surroundings) :
    ∃ result : Except Failure Json,
      Concur (store backend env) env.now result ∧
      (∀ outcome, Fetched backend env outcome ↔ outcome = result.mapError (·.kind)) ∧
      ∀ j after, (store backend env).Runs j after → Traced backend env j after result :=
  ⟨delivered backend env, concur_store, fun _ => fetched_iff, fun _ _ h => traced_store h⟩

/-- A status of 500 stands for itself, even over a body that decodes. -/
theorem fetch_classified_refused :
    let backend : RulesBackend := ⟨some "http://[::1]:3000", "", "", 10⟩
    let env := { Surroundings.quiet with rules := .answered 500 (octets "\x7b\x7d") }
    Decodes (octets "\x7b\x7d") (.object []) ∧
      ∃ e event, e.kind = .unavailable ∧ Concur (store backend env) env.now (.error e) ∧
        ((store backend env).alerts.run {}).2.events = [event] := by
  intro backend env
  have hexchanged : exchanged env (Url.under "http://[::1]:3000" rulesPath) =
      .answered 500 (octets "\x7b\x7d") := by decide +kernel
  have hfetched : Fetched backend env (.error .unavailable) :=
    .called rfl (by decide) (hexchanged ▸ .refused (by decide))
  refine ⟨⟨⟨[], by decide +kernel, nofun⟩, .inr ⟨[], rfl⟩⟩, ?_⟩
  obtain ⟨result, hconcur, hkinds, htraced⟩ := fetch_classified backend env
  cases result with
  | ok payload => cases (hkinds _).mp hfetched
  | error e =>
    cases htraced {} _ .alerts with
    | uncalled h => exact absurd h (by simp [Unset, backend])
    | failed h _ events =>
      exact ⟨e, _, (Except.error.inj ((hkinds _).mp hfetched)).symm, hconcur, events⟩

end RulesStore

end ProbeGateway
