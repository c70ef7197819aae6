import ProbeGateway.Failure.Basic
import ProbeGateway.Metrics.Histogram

/-!
# Metrics

What the service counts about itself: four plain counters, and families of counters and histograms
that are told apart by labels. A family holds its series by their label values, in the order of the
label names, and so it is the same value whatever order its series were first used in.
-/

namespace ProbeGateway

/-- The label values of a series, in the order of the label names. -/
abbrev Series := List String

/-- A family of counters. -/
abbrev Tally := Sorted Series Nat

/-- A family of histograms. -/
abbrev Timings := Sorted Series Histogram

namespace Tally

/-- Adds one to a series. -/
def add (series : Series) (tally : Tally) : Tally :=
  Sorted.update series (fun old => old.getD 0 + 1) tally

/-- The sum of the series that satisfy a condition. -/
def sumWhere (p : Series → Bool) : Tally → Nat
  | [] => 0
  | (series, n) :: rest => if p series then n + sumWhere p rest else sumWhere p rest

/-- The sum of all series. -/
def total : Tally → Nat
  | [] => 0
  | (_, n) :: rest => n + total rest

theorem total_add (series : Series) (tally : Tally) :
    total (add series tally) = total tally + 1 := by
  induction tally with
  | nil => rfl
  | cons entry rest ih =>
    obtain ⟨s, n⟩ := entry
    simp only [add, Sorted.update] at ih ⊢
    split
    · simp only [total, Option.getD_some]
      omega
    · split
      · simp only [total, Option.getD_none]
        omega
      · simp only [total, ih]
        omega

/-- Adding to a series adds one to every sum that the series is part of. -/
theorem sumWhere_add (p : Series → Bool) (series : Series) (tally : Tally) :
    sumWhere p (add series tally) = sumWhere p tally + if p series then 1 else 0 := by
  induction tally with
  | nil =>
    simp only [add, Sorted.update, sumWhere, Option.getD_none]
    split <;> rfl
  | cons entry rest ih =>
    obtain ⟨s, n⟩ := entry
    simp only [add, Sorted.update] at ih ⊢
    split
    · next h =>
      subst h
      simp only [sumWhere, Option.getD_some]
      split <;> omega
    · split
      · simp only [sumWhere, Option.getD_none]
        split <;> omega
      · simp only [sumWhere, ih]
        split <;> omega

/-- A sum over some of the series is no more than the sum of all. -/
theorem sumWhere_le_total (p : Series → Bool) (tally : Tally) : sumWhere p tally ≤ total tally := by
  induction tally with
  | nil => exact Nat.le_refl 0
  | cons entry rest ih =>
    simp only [sumWhere, total]
    split <;> omega

/-- A tally tells which series was added to. -/
theorem add_injective {series series' : Series} {tally : Tally}
    (h : add series tally = add series' tally) : series = series' := by
  have hsum := sumWhere_add (fun s => s = series) series tally
  rw [h, sumWhere_add] at hsum
  by_cases hs : series' = series
  · exact hs.symm
  · simp [hs] at hsum

end Tally

namespace Timings

/-- Observes a value in a series. -/
def observe (series : Series) (value : Binary64) (timings : Timings) : Timings :=
  Sorted.update series (fun old => (old.getD .empty).observe value) timings

end Timings

/-- The counters and families of the service. -/
structure Metrics where
  requests : Nat := 0
  errors : Nat := 0
  panics : Nat := 0
  /-- The tasks alive when they were last counted. -/
  workers : Int := 0
  httpRequests : Tally := []
  httpDurations : Timings := []
  httpErrors : Tally := []
  panicsTotal : Nat := 0
  healthQueries : Tally := []
  backendRequests : Tally := []
  backendDurations : Timings := []
deriving DecidableEq, Repr

/-- The plain counters at one time. -/
structure CounterSnapshot where
  requests : Nat
  errors : Nat
  panics : Nat
  goroutines : Int
deriving DecidableEq, Repr

namespace Metrics

/-- How many requests lie between two counts of the tasks alive. -/
def sampleInterval : Nat := 1000

/-! ## Series -/

/-- The series of requests with a method, a path and a status. -/
def requestSeries (method path : String) (status : Nat) : Series := [method, path, decimal status]

/-- Statuses are told apart by their series. -/
theorem status_eq_of_requestSeries_eq {method path : String} {status status' : Nat}
    (h : requestSeries method path status = requestSeries method path status') :
    status = status' := by
  simp only [requestSeries, List.cons.injEq, and_true, true_and] at h
  exact decimal_injective h

/-- The series of request times with a method and a path. -/
def routeSeries (method path : String) : Series := [method, path]

/-- The series of failed requests with a method, a path and the name of a kind. -/
def errorSeries (method path code : String) : Series := [code, method, path]

/-- Kinds are told apart by their series. -/
theorem code_eq_of_errorSeries_eq {method path code code' : String}
    (h : errorSeries method path code = errorSeries method path code') : code = code' := by
  simp only [errorSeries, List.cons.injEq, and_true] at h
  exact h

/-- The series of health queries with an operation and an outcome. -/
def querySeries (operation outcome : String) : Series := [operation, outcome]

/-- The series of backend calls with a backend, an endpoint and an outcome. -/
def backendSeries (backend endpoint outcome : String) : Series := [backend, endpoint, outcome]

/-- The series of times of backend calls. -/
def endpointSeries (backend endpoint : String) : Series := [backend, endpoint]

/-! ## Counting -/

/-- Counts a request. -/
def addRequest (m : Metrics) : Metrics := { m with requests := m.requests + 1 }

/-- Counts a failed request. -/
def addError (m : Metrics) : Metrics := { m with errors := m.errors + 1 }

/-- Counts a handler that broke off. -/
def addPanic (m : Metrics) : Metrics :=
  { m with panics := m.panics + 1, panicsTotal := m.panicsTotal + 1 }

/-- Notes how many tasks are alive. -/
def sampleWorkers (alive : Int) (m : Metrics) : Metrics := { m with workers := alive }

/-- Counts an answered request under its method, path and status. -/
def countResponse (method path : String) (status : Nat) (m : Metrics) : Metrics :=
  { m with httpRequests := m.httpRequests.add (requestSeries method path status) }

/-- Observes the time of an answered request. -/
def timeResponse (method path : String) (seconds : Binary64) (m : Metrics) : Metrics :=
  { m with httpDurations := m.httpDurations.observe (routeSeries method path) seconds }

/-- Records an answered request. -/
def recordRequest (method path : String) (status : Nat) (seconds : Binary64) (m : Metrics) :
    Metrics :=
  (m.countResponse method path status).timeResponse method path seconds

/-- Records a failed request under the name of a kind. -/
def recordError (method path code : String) (m : Metrics) : Metrics :=
  { m with httpErrors := m.httpErrors.add (errorSeries method path code) }

/-- Records a health query. -/
def recordHealthQuery (operation outcome : String) (m : Metrics) : Metrics :=
  { m with healthQueries := m.healthQueries.add (querySeries operation outcome) }

/-- Records a call of a backend. -/
def recordBackend (backend endpoint outcome : String) (seconds : Binary64) (m : Metrics) :
    Metrics :=
  { m with
    backendRequests := m.backendRequests.add (backendSeries backend endpoint outcome)
    backendDurations := m.backendDurations.observe (endpointSeries backend endpoint) seconds }

/-- The plain counters. -/
def snapshot (m : Metrics) : CounterSnapshot := ⟨m.requests, m.errors, m.panics, m.workers⟩

/-- The outcome of an operation, as metrics name it: success, or the kind of the failure. -/
def outcome {α : Type} : Except Failure α → String
  | .ok _ => "success"
  | .error e => e.kind.name

end Metrics

namespace CounterSnapshot

/-- The members of a snapshot as JSON. -/
def members (s : CounterSnapshot) : List (String × Json) :=
  [("requests", .nat s.requests), ("errors", .nat s.errors), ("panics", .nat s.panics),
    ("goroutines", .number (.integer s.goroutines))]

/-- A snapshot as JSON. -/
def json (s : CounterSnapshot) : Json := .object s.members

end CounterSnapshot

end ProbeGateway
