import ProbeGateway.Proofs.Pipeline.Conservation
import ProbeGateway.Proofs.Service.SameBackends

/-!
# The order of requests

Requests go through the public application one after the other, each with what it meets outside.
Nothing that one of them gets depends on the others.

1. Each request of a run is answered as it would be alone (`answers_eq`).
2. What a run leaves in the metrics are the marks of its requests, one after the other
   (`metrics_after`), and apart from times these are told by the requests and by what the backends
   did to them (`marks_of_visits`).
3. So two runs of the same requests come to the same counts (`order_irrelevant`).
-/

namespace ProbeGateway

/-! ## Visits and answers -/

/-- The answers to some requests, each with what it met outside, and the calls that each made. -/
def App.answers (app : App) :
    List (Surroundings × Request) → Journal → List (Response × List Call)
  | [], _ => []
  | (env, request) :: rest, j =>
    let served := (app.serve env request).run j
    (served.1, served.2.calls.drop j.calls.length) :: app.answers rest served.2

/-- A request with what the backends do to it. -/
structure Visit where
  request : Request
  rules : Exchange
  metrics : Exchange
  rulesRedirects : Redirects
  metricsRedirects : Redirects

/-- The visit of a request in its surroundings. -/
def Visit.of (x : Surroundings × Request) : Visit :=
  ⟨x.2, x.1.rules, x.1.metrics, x.1.rulesRedirects, x.1.metricsRedirects⟩

/-- Surroundings in which the backends do the same. -/
def Visit.surroundings (v : Visit) : Surroundings :=
  { Surroundings.quiet with
    rules := v.rules
    metrics := v.metrics
    rulesRedirects := v.rulesRedirects
    metricsRedirects := v.metricsRedirects }

theorem Visit.sameBackends {x x' : Surroundings × Request} (h : Visit.of x = Visit.of x') :
    x.1.SameBackends x'.1 where
  rules := congrArg Visit.rules h
  metrics := congrArg Visit.metrics h
  rulesRedirects := congrArg Visit.rulesRedirects h
  metricsRedirects := congrArg Visit.metricsRedirects h

/-! ## Runs -/

namespace Api

variable (settings : ApiSettings)

theorem answers_eq (run : List (Surroundings × Request)) (j : Journal) :
    (app settings).answers run j = run.map fun x =>
      ((taken x.2).response settings x.1 x.2, (taken x.2).calls settings x.1) := by
  induction run generalizing j with
  | nil => rfl
  | cons x rest ih =>
    obtain ⟨env, request⟩ := x
    have hleaves := leaves_serve settings env request
    unfold App.answers
    dsimp only
    rw [ih, hleaves.result, hleaves.calls, List.drop_left]
    rfl

theorem getElem?_answers {run : List (Surroundings × Request)} {i : Nat} {x : Surroundings × Request}
    (h : run[i]? = some x) (j : Journal) :
    ((app settings).answers run j)[i]? =
      some ((taken x.2).response settings x.1 x.2, (taken x.2).calls settings x.1) := by
  rw [answers_eq, List.getElem?_map, h]
  rfl

theorem metrics_after (run : List (Surroundings × Request)) (j : Journal) :
    ((app settings).after run j).metrics =
      (run.flatMap fun x => (taken x.2).marks settings x.1).foldl Mark.apply j.metrics := by
  induction run generalizing j with
  | nil => rfl
  | cons x rest ih =>
    obtain ⟨env, request⟩ := x
    have hleaves := leaves_serve settings env request
    unfold App.after
    rw [ih, hleaves.metrics, List.flatMap_cons, List.foldl_append]

/-- What a run enters in the ledger is told by its visits. -/
theorem marks_of_visits (run : List (Surroundings × Request)) :
    (run.flatMap fun x => (taken x.2).marks settings x.1).map Mark.timeless =
      (run.map Visit.of).flatMap fun v =>
        ((taken v.request).marks settings v.surroundings).map Mark.timeless := by
  have hvisit (x : Surroundings × Request)  :
      x.1.SameBackends (Visit.of x).surroundings := ⟨rfl, rfl, rfl, rfl⟩
  rw [List.map_flatMap, List.flatMap_map]
  exact congrArg run.flatMap (funext fun x => Taken.marks_congr settings (hvisit x) (taken x.2))

/-- **The order of requests does not matter.** Two runs, from the same beginning, of the same
requests with the same behaviour of the backends, in any order and at any times, come to the same
counts, and so to the same text of the metrics apart from sums and buckets. A request makes the same
calls in both runs and is answered with the same status; at the same time by the clock it is
answered with the same body and headers, apart from the trace id, and with the same response if it
has the same trace id. -/
theorem order_irrelevant (settings : ApiSettings) {first second : List (Surroundings × Request)}
    (h : (first.map Visit.of).Perm (second.map Visit.of)) (j : Journal) :
    let app := Api.app settings
    let m := (app.after first j).metrics
    let m' := (app.after second j).metrics
    (m.requests = m'.requests ∧ m.errors = m'.errors ∧ m.panics = m'.panics ∧
      Exposition.steadyText m = Exposition.steadyText m') ∧
    ∀ (x x' : Surroundings × Request) (i i' : Nat), first[i]? = some x → second[i']? = some x' →
      Visit.of x = Visit.of x' →
      ∃ r r' calls, (app.answers first j)[i]? = some (r, calls) ∧
        (app.answers second j)[i']? = some (r', calls) ∧
        r.status = r'.status ∧
        (x.1.now = x'.1.now → r.body = r'.body ∧
          ∀ name, name ≠ traceHeader → r.headers.values name = r'.headers.values name) ∧
        (x.1.now = x'.1.now → Layer.traceIdOf x.1 x.2 = Layer.traceIdOf x'.1 x'.2 → r = r') := by
  intro app m m'
  refine ⟨?_, fun x x' i i' hx hx' hvisit => ?_⟩
  · have hmarks : ((first.flatMap fun x => (taken x.2).marks settings x.1).map
          Mark.timeless).Perm
        ((second.flatMap fun x => (taken x.2).marks settings x.1).map Mark.timeless) := by
      rw [marks_of_visits, marks_of_visits]
      exact h.flatMap_right _
    have hledger : m.ledger = m'.ledger := by
      show ((app.after first j).metrics).ledger = ((app.after second j).metrics).ledger
      rw [metrics_after, metrics_after]
      exact Metrics.ledger_of_perm hmarks j.metrics
    exact ⟨congrArg Ledger.requests hledger, congrArg Ledger.errors hledger,
      congrArg Ledger.panics hledger, Exposition.steadyText_of_ledger hledger⟩
  · have hsame := Visit.sameBackends hvisit
    have hrequest : x'.2 = x.2 := (congrArg Visit.request hvisit).symm
    have hanswer := getElem?_answers settings hx j
    have hanswer' := getElem?_answers settings hx' j
    rw [hrequest, ← Taken.calls_congr settings hsame] at hanswer'
    refine ⟨_, _, _, hanswer, hanswer', Taken.status_congr settings hsame _ _, fun hnow => ?_,
      fun hnow hid => ?_⟩
    · have h := Taken.response_sameBut settings hsame hnow x.2 (taken x.2)
      exact ⟨h.body, h.values⟩
    · rw [hrequest] at hid
      exact Taken.response_congr settings hsame hnow hid _

/-- A list of checks and a query in either order, at other times and with other trace ids. -/
theorem order_irrelevant_swapped :
    let app := Api.app ⟨"*", ⟨some "http://[::1]:3000", "", "", 10⟩, "http://[::1]:9090"⟩
    let early : Surroundings :=
      { Surroundings.quiet with rules := .answered 200 (octets "\x7b\x7d") }
    let late : Surroundings :=
      { early with now := ⟨1, 0⟩, freshTraceId := "c0ffee", elapsed := .ofDecimal false 3 0 }
    let list := Request.to .get "/api/v1/health"
    let query := Request.to .head "/api/v1/metrics/up"
    let first := [(early, list), (late, query)]
    let second := [(early, query), (late, list)]
    let m := (app.after first {}).metrics
    let m' := (app.after second {}).metrics
    (first.map Visit.of).Perm (second.map Visit.of) ∧ m.requests = 2 ∧ m'.requests = 2 ∧
      m.errors = 1 ∧ m'.errors = 1 ∧ Exposition.steadyText m = Exposition.steadyText m' ∧
      ∃ r r' call, (app.answers first {})[0]? = some (r, [call]) ∧
        (app.answers second {})[1]? = some (r', [call]) ∧ r.status = r'.status := by
  intro app early late list query first second m m'
  have hperm : (first.map Visit.of).Perm (second.map Visit.of) := .swap _ _ _
  obtain ⟨⟨hrequests, herrors, -, htext⟩, hanswers⟩ := order_irrelevant
    ⟨"*", ⟨some "http://[::1]:3000", "", "", 10⟩, "http://[::1]:9090"⟩ hperm {}
  obtain ⟨r, r', calls, hr, hr', hstatus, -⟩ :=
    hanswers (early, list) (late, list) 0 1 rfl rfl rfl
  have hcount : m.requests = 2 := by decide +kernel
  have hfailed : m.errors = 1 := by decide +kernel
  have hcalls : (app.answers first {})[0]?.map (·.2.length) = some 1 := by decide +kernel
  rw [hr, Option.map_some, Option.some.injEq] at hcalls
  obtain ⟨call, rfl⟩ := List.length_eq_one_iff.mp hcalls
  exact ⟨hperm, hcount, hrequests.symm.trans hcount, hfailed, herrors.symm.trans hfailed, htext,
    r, r', call, hr, hr', hstatus⟩

end Api

end ProbeGateway
