import ProbeGateway.Proofs.Pipeline.Traffic
import ProbeGateway.Proofs.Service.Inspection

/-!
# The counters over whole runs

Requests go through an application one after the other, each with what it meets outside. The
counters agree at the end of any such run.

1. A request counts if its path and method lead to a main route (`passes`), and it counts as
   recovered if a handler was reached and broke off (`recovers`).
2. One request keeps the counters in agreement, whatever answers it (`conserved_serve`).
3. So does any run of requests, by induction along the run (`conserved_after`).
4. No counter gets beyond the number of requests (`counters_lt_wordLimit`).
-/

namespace ProbeGateway

/-! ## Which requests count -/

namespace App

variable (app : App)

/-- A request goes through the layers. -/
def passes (request : Request) : Bool :=
  match Template.choose request.path.toList (app.routes.map (·.template)) with
  | none => false
  | some (template, _) => groupFor request.method (app.routesAt template) = .main

/-- A request is answered by recovery. -/
def recovers (env : Surroundings) (request : Request) (j : Journal) : Bool :=
  match app.dispatch? env request with
  | none => false
  | some d => d.group = .main && d.recovers env j

/-! ## Runs -/

/-- What some requests leave behind, each with what it met outside. -/
def after : List (Surroundings × Request) → Journal → Journal
  | [], j => j
  | (env, request) :: rest, j => after rest ((app.serve env request).run j).2

/-- How many of some requests go through the layers. -/
def passed : List (Surroundings × Request) → Nat
  | [] => 0
  | (_, request) :: rest => (app.passes request).toNat + passed rest

/-- How many of some requests are answered by recovery. -/
def recovered : List (Surroundings × Request) → Journal → Nat
  | [], _ => 0
  | (env, request) :: rest, j =>
    (app.recovers env request j).toNat + recovered rest ((app.serve env request).run j).2

variable {app} {env : Surroundings} {request : Request} {d : Dispatch} {j : Journal}

theorem passes_of_dispatch?_eq_none (hd : app.dispatch? env request = none) :
    app.passes request = false := by
  unfold dispatch? at hd
  unfold passes
  rw [Option.map_eq_none_iff.mp hd]

/-- A request goes through the layers if it is dispatched within the main group. -/
theorem passes_of_dispatch? (hd : app.dispatch? env request = some d) :
    app.passes request = decide (d.group = .main) := by
  unfold dispatch? at hd
  obtain ⟨⟨template, parts⟩, hfound, rfl⟩ := Option.map_eq_some_iff.mp hd
  unfold passes
  rw [hfound, dispatchAt_group]

theorem recovers_of_dispatch? (hd : app.dispatch? env request = some d) :
    app.recovers env request j = (decide (d.group = .main) && d.recovers env j) := by
  unfold recovers
  rw [hd]

/-- Only requests that go through the layers are answered by recovery. -/
theorem recovers_le_passes (env : Surroundings) (request : Request) (j : Journal) :
    (app.recovers env request j).toNat ≤ (app.passes request).toNat := by
  cases hd : app.dispatch? env request with
  | none =>
    unfold recovers
    rw [hd]
    exact Nat.zero_le _
  | some d =>
    rw [passes_of_dispatch? hd, recovers_of_dispatch? hd]
    cases decide (d.group = .main) with
    | true => exact Bool.toNat_le _
    | false => exact Nat.le_refl 0

theorem recovered_le_passed (requests : List (Surroundings × Request)) (j : Journal) :
    app.recovered requests j ≤ app.passed requests := by
  induction requests generalizing j with
  | nil => exact Nat.le_refl 0
  | cons first rest ih => exact Nat.add_le_add (recovers_le_passes first.1 first.2 j) (ih _)

theorem passed_le_length (requests : List (Surroundings × Request)) :
    app.passed requests ≤ requests.length := by
  induction requests with
  | nil => exact Nat.le_refl 0
  | cons first rest ih =>
    have hone := Bool.toNat_le (app.passes first.2)
    simp only [passed, List.length_cons]
    omega

end App

/-! ## One request -/

namespace Dispatch

variable {d : Dispatch} {settings : PipelineSettings} {env : Surroundings} {j : Journal}
  {passed recovered : Nat}

/-- Up to its recording a request counts as recovered or not at all. -/
theorem conserved_innermost (hk : ∀ incoming, Action.KeepsTraffic (d.handler incoming))
    (h : j.metrics.Conserved passed recovered) :
    (d.innermost settings env j).2.metrics.Conserved passed
      (recovered + (d.recovers env j).toNat) := by
  have htraffic : (d.innermost settings env j).2.metrics.traffic = _ :=
    traffic_innermost settings hk
  cases hr : d.recovers env j with
  | true =>
    rw [hr] at htraffic
    exact h.addPanic.congr htraffic
  | false =>
    rw [hr] at htraffic
    exact h.congr htraffic

end Dispatch

namespace App

variable {app : App} {env : Surroundings} {request : Request} {j : Journal}
  {passed recovered : Nat}

variable (env request) in
/-- **One request keeps the counters in agreement**, whatever its path leads to. -/
theorem conserved_serve (hk : app.KeepsTraffic) (h : j.metrics.Conserved passed recovered) :
    ((app.serve env request).run j).2.metrics.Conserved
      (passed + (app.passes request).toNat)
      (recovered + (app.recovers env request j).toNat) := by
  cases hd : app.dispatch? env request with
  | none =>
    rw [serve_run_none hd, passes_of_dispatch?_eq_none hd, recovers, hd]
    exact h
  | some d =>
    rw [passes_of_dispatch? hd, recovers_of_dispatch? hd]
    cases hg : d.group with
    | main =>
      rw [serve_run_main hd hg]
      exact (d.conserved_innermost (hk.dispatch hd) h).complete _
    | bare =>
      rw [serve_run_bare hd hg]
      exact h.congr (hk.dispatch hd _ _)

/-! ## A run -/

/-- **Any run keeps the counters in agreement.** -/
theorem conserved_after (hk : app.KeepsTraffic) (requests : List (Surroundings × Request))
    (h : j.metrics.Conserved passed recovered) :
    (app.after requests j).metrics.Conserved (passed + app.passed requests)
      (recovered + app.recovered requests j) := by
  induction requests generalizing j passed recovered with
  | nil => exact h
  | cons first rest ih =>
    obtain ⟨env, request⟩ := first
    have hrest := ih (conserved_serve env request hk h)
    rw [Nat.add_assoc, Nat.add_assoc] at hrest
    exact hrest

/-- No counter gets beyond the number of requests, neither a plain one nor a family, so that
counters of 64 bits do not run over in any run shorter than what they hold. -/
theorem counters_lt_wordLimit (hk : app.KeepsTraffic) (requests : List (Surroundings × Request))
    (hshort : requests.length < wordLimit) :
    let m := (app.after requests {}).metrics
    (m.requests < wordLimit ∧ m.errors < wordLimit ∧ m.panics < wordLimit) ∧
      m.httpRequests.total < wordLimit ∧ m.httpErrors.total < wordLimit ∧
      m.panicsTotal < wordLimit := by
  intro m
  have h : m.Conserved (0 + app.passed requests) (0 + app.recovered requests {}) :=
    conserved_after hk requests Metrics.Conserved.fresh
  have hpassed := @passed_le_length app requests
  have hrecovered := @recovered_le_passed app requests {}
  have hfailed := Tally.sumWhere_le_total Metrics.tellsFailure m.httpRequests
  rw [h.failed, h.labelled] at hfailed
  rw [h.requests, h.panics, h.labelled, h.errors, h.panicsTotal]
  refine ⟨⟨?_, ?_, ?_⟩, ?_, ?_, ?_⟩ <;> omega

/-- **Conservation of the counters.** After any run of requests from fresh metrics, the plain
counters, the families of counters, the times and the number of requests of each sort agree, and the
inspection shows just these counters. -/
theorem counters_conserved (hk : app.KeepsTraffic) (requests : List (Surroundings × Request)) :
    let j := app.after requests {}
    let passed := app.passed requests
    let failed := j.metrics.httpErrors.total
    let recovered := app.recovered requests {}
    (j.metrics.requests = passed ∧ j.metrics.httpRequests.total = passed) ∧
    (j.metrics.errors = failed ∧ j.metrics.httpRequests.sumWhere Metrics.tellsFailure = failed) ∧
    (j.metrics.panics = recovered ∧ j.metrics.panicsTotal = recovered) ∧
    (∀ method path, j.metrics.httpDurations.countOf (Metrics.routeSeries method path) =
      j.metrics.httpRequests.sumWhere (Metrics.isOf method path)) ∧
    ∀ (env : Surroundings) (request : Request),
      request.method = .get → request.path = "/debug/vars" →
        let served := (Inspection.app.serve env request).run j
        served.1.status = 200 ∧
        served.1.body = Json.body (.object [("build", .text serviceVersion),
          ("requests", .nat passed), ("errors", .nat failed), ("panics", .nat recovered),
          ("goroutines", .number (.integer j.metrics.workers))]) ∧
        served.2 = j := by
  intro j passed failed recovered
  have h : j.metrics.Conserved passed recovered := by
    have := conserved_after hk requests (j := {}) Metrics.Conserved.fresh
    rw [Nat.zero_add, Nat.zero_add] at this
    exact this
  refine ⟨⟨h.requests, h.labelled⟩, ⟨h.errors.symm, h.failed.trans h.errors.symm⟩,
    ⟨h.panics, h.panicsTotal⟩, h.timed, ?_⟩
  intro env request hm hp served
  obtain ⟨hstatus, hbody, hleft⟩ := Inspection.vars_shown env hm hp j
  refine ⟨hstatus, ?_, hleft⟩
  rw [← h.requests, ← h.panics, show failed = j.metrics.errors from h.errors]
  exact hbody

theorem sample_keepsTraffic (detail : String) (payload : PanicPayload) :
    (sample detail payload).KeepsTraffic := (sample_ordinary detail payload).keepsTraffic

/-- Six of eight requests pass the layers, three of them fail, and one of these by breaking off. -/
theorem counters_conserved_sample :
    let requests : List (Surroundings × Request) :=
      [(.quiet, .to .get "/ok"), (.quiet, .to .head "/ok"), (.quiet, .to .options "/boom"),
        (.quiet, .to .get "/boom"), (.quiet, .to ⟨"PUT"⟩ "/tea"), (.quiet, .to ⟨"POST"⟩ "/ok"),
        (.quiet, .to .get "/bare"), (.quiet, .to .get "/nowhere")]
    let j := (sample "" .other).after requests {}
    j.metrics.requests = 6 ∧ j.metrics.httpRequests.total = 6 ∧ j.metrics.errors = 3 ∧
      j.metrics.panics = 1 ∧ j.metrics.panicsTotal = 1 ∧
      ((Inspection.app.serve .quiet (.to .get "/debug/vars")).run j).1.body =
        octets ("\x7b\"build\":\"0.1.0\",\"requests\":6,\"errors\":3," ++
          "\"panics\":1,\"goroutines\":0\x7d") := by
  intro requests j
  obtain ⟨⟨hrequests, htotal⟩, ⟨herrors, -⟩, ⟨hpanics, hpanicsTotal⟩, -, hvars⟩ :=
    counters_conserved (sample_keepsTraffic "" .other) requests
  have hpassed : (sample "" .other).passed requests = 6 := by decide +kernel
  have hfailed : j.metrics.httpErrors.total = 3 := by decide +kernel
  have hrecovered : (sample "" .other).recovered requests {} = 1 := by decide +kernel
  have hworkers : j.metrics.workers = 0 := by decide +kernel
  obtain ⟨-, hbody, -⟩ := hvars .quiet (.to .get "/debug/vars") rfl rfl
  refine ⟨hrequests.trans hpassed, htotal.trans hpassed, herrors.trans hfailed,
    hpanics.trans hrecovered, hpanicsTotal.trans hrecovered, hbody.trans ?_⟩
  rw [hpassed, hfailed, hrecovered, hworkers]
  decide +kernel

end App

end ProbeGateway
