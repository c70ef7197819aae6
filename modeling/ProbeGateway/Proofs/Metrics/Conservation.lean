import ProbeGateway.Metrics.Recording
import ProbeGateway.Proofs.Sorted

/-!
# Counters that agree

The layers count the same events in several places: in plain counters, in families told apart by
labels, and in histograms. `Conserved` says how these hang together between two requests.

1. It looks at the `traffic` only, the part that handlers have no business with
   (`Conserved.congr`).
2. Counting a handler that broke off keeps it (`Conserved.addPanic`).
3. Recording a response keeps it (`Conserved.complete`).
-/

namespace ProbeGateway

/-! ## Values observed -/

namespace Timings

/-- How many values a series has observed. -/
def countOf (series : Series) (timings : Timings) : Nat :=
  ((Sorted.find? series timings).map (·.count)).getD 0

variable {series : Series} {value : Binary64} {timings : Timings}

theorem countOf_observe_self (h : Sorted.Increasing timings) :
    countOf series (observe series value timings) = countOf series timings + 1 := by
  unfold countOf observe
  rw [h.find?_update_self]
  cases Sorted.find? series timings with
  | none => rfl
  | some histogram => rfl

theorem countOf_observe_of_ne {other : Series} (h : other ≠ series) :
    countOf other (observe series value timings) = countOf other timings := by
  unfold countOf observe
  rw [Sorted.find?_update_of_ne h]

end Timings

namespace Metrics

/-! ## Labels of requests -/

/-- Whether the status of a series of requests is that of a failure. -/
def tellsFailure : Series → Bool
  | [_, _, status] => 400 ≤ Nat.ofDigitChars 10 status.toList 0
  | _ => false

/-- Whether a series of requests has a method and a path. -/
def isOf (method path : String) (series : Series) : Bool := series.take 2 = routeSeries method path

variable {method path : String} {status : Nat}

theorem tellsFailure_requestSeries :
    tellsFailure (requestSeries method path status) = decide (400 ≤ status) := by
  simp only [requestSeries, tellsFailure, toList_decimal, ofDigitChars_decimalDigits]

theorem isOf_requestSeries {method' path' : String} :
    isOf method' path' (requestSeries method path status) =
      decide (routeSeries method' path' = routeSeries method path) := by
  simp only [isOf, requestSeries, routeSeries, List.take_succ_cons, List.take_zero]
  exact decide_eq_decide.mpr eq_comm

/-! ## The invariant -/

/-- What the layers count, without what is counted within handlers. -/
def traffic (m : Metrics) : Metrics :=
  { m with workers := 0, healthQueries := [], backendRequests := [], backendDurations := [] }

/-- The counters after some requests have passed the layers, some of them by way of recovery. -/
structure Conserved (passed recovered : Nat) (m : Metrics) : Prop where
  requests : m.requests = passed
  labelled : m.httpRequests.total = passed
  errors : m.httpErrors.total = m.errors
  failed : m.httpRequests.sumWhere tellsFailure = m.errors
  panics : m.panics = recovered
  panicsTotal : m.panicsTotal = recovered
  increasing : Sorted.Increasing m.httpDurations
  timed : ∀ method path,
    m.httpDurations.countOf (routeSeries method path) = m.httpRequests.sumWhere (isOf method path)

namespace Conserved

variable {passed recovered : Nat} {m m' : Metrics}

theorem fresh : Conserved 0 0 {} where
  requests := rfl
  labelled := rfl
  errors := rfl
  failed := rfl
  panics := rfl
  panicsTotal := rfl
  increasing := Sorted.increasing_nil
  timed _ _ := rfl

theorem iff_traffic : Conserved passed recovered m ↔ Conserved passed recovered m.traffic := by
  constructor
  · rintro ⟨h₁, h₂, h₃, h₄, h₅, h₆, h₇, h₈⟩
    exact ⟨h₁, h₂, h₃, h₄, h₅, h₆, h₇, h₈⟩
  · rintro ⟨h₁, h₂, h₃, h₄, h₅, h₆, h₇, h₈⟩
    exact ⟨h₁, h₂, h₃, h₄, h₅, h₆, h₇, h₈⟩

/-- Nothing but the traffic matters. -/
theorem congr (h : Conserved passed recovered m) (ht : m'.traffic = m.traffic) :
    Conserved passed recovered m' := by
  rw [iff_traffic, ht]
  exact iff_traffic.mp h

theorem addPanic (h : Conserved passed recovered m) :
    Conserved passed (recovered + 1) m.addPanic where
  requests := h.requests
  labelled := h.labelled
  errors := h.errors
  failed := h.failed
  panics := congrArg (· + 1) h.panics
  panicsTotal := congrArg (· + 1) h.panicsTotal
  increasing := h.increasing
  timed := h.timed

/-- A recording adds the same in all places. -/
theorem complete (h : Conserved passed recovered m) (r : Recording) :
    Conserved (passed + 1) recovered (r.complete m) := by
  rw [Recording.complete_record]
  constructor
  case requests => exact congrArg (· + 1) h.requests
  case labelled => rw [Tally.total_add, h.labelled]
  case panics => exact h.panics
  case panicsTotal => exact h.panicsTotal
  case increasing => exact h.increasing.update
  case errors =>
    dsimp only
    split
    · rw [Tally.total_add, h.errors]
    · exact h.errors
  case failed =>
    dsimp only
    rw [Tally.sumWhere_add, tellsFailure_requestSeries, h.failed]
    by_cases hs : 400 ≤ r.status
    · simp [Recording.isFailed, hs]
    · simp [Recording.isFailed, hs]
  case timed =>
    intro method path
    dsimp only
    rw [Tally.sumWhere_add, isOf_requestSeries, ← h.timed]
    by_cases hs : routeSeries method path = routeSeries r.method r.path
    · rw [hs, Timings.countOf_observe_self h.increasing]
      simp
    · rw [Timings.countOf_observe_of_ne hs]
      simp [hs]

end Conserved

end Metrics

end ProbeGateway
