import ProbeGateway.Metrics.Exposition
import ProbeGateway.Proofs.Pipeline.Footprint
import ProbeGateway.Proofs.Sorted

/-!
# Counts without times

The `Ledger` of the metrics holds every count, and no times and no sampled tasks.

1. A mark is entered in the ledger whatever time it tells (`Ledger.enter_timeless`).
2. Two marks may be entered in either order (`Ledger.enter_comm`), and so any number of marks in any
   order (`Metrics.ledger_of_perm`).
3. The text of the metrics, apart from the lines of sums and buckets, is told by the ledger
   (`Exposition.steadyText_of_ledger`).
-/

namespace ProbeGateway

/-! ## Series -/

/-- How many values each series has observed. -/
def Timings.counts (timings : Timings) : Tally := timings.map fun e => (e.1, e.2.count)

theorem Timings.counts_observe (series : Series) (value : Binary64) (timings : Timings) :
    counts (observe series value timings) = (counts timings).add series := by
  have hcount (old : Option Histogram) :
      ((old.getD .empty).observe value).count = (old.map Histogram.count).getD 0 + 1 := by
    cases old with
    | none => rfl
    | some h => rfl
  exact Sorted.map_update hcount timings

theorem Tally.add_comm (series series' : Series) (tally : Tally) :
    add series (add series' tally) = add series' (add series tally) := by
  by_cases h : series = series'
  · rw [h]
  · exact Sorted.update_comm h tally

/-! ## The ledger -/

/-- The families of counts. -/
inductive CountFamily
  | httpRequests
  | httpTimes
  | httpErrors
  | healthQueries
  | backendRequests
  | backendTimes
deriving DecidableEq, Repr

/-- The counts of the metrics. -/
@[ext] structure Ledger where
  requests : Nat
  errors : Nat
  panics : Nat
  panicsTotal : Nat
  tally : CountFamily → Tally

/-- The counts that the metrics hold. -/
def Metrics.ledger (m : Metrics) : Ledger where
  requests := m.requests
  errors := m.errors
  panics := m.panics
  panicsTotal := m.panicsTotal
  tally
    | .httpRequests => m.httpRequests
    | .httpTimes => m.httpDurations.counts
    | .httpErrors => m.httpErrors
    | .healthQueries => m.healthQueries
    | .backendRequests => m.backendRequests
    | .backendTimes => m.backendDurations.counts

namespace Mark

/-- The series of a family that a mark counts in. -/
def series? : Mark → CountFamily → Option Series
  | healthQuery operation outcome, .healthQueries => some (Metrics.querySeries operation outcome)
  | backendCall backend outcome _, .backendRequests =>
    some (Metrics.backendSeries backend.name backend.endpoint outcome)
  | backendCall backend _ _, .backendTimes =>
    some (Metrics.endpointSeries backend.name backend.endpoint)
  | response r, .httpRequests => some (Metrics.requestSeries r.method r.path r.status)
  | response r, .httpTimes => some (Metrics.routeSeries r.method r.path)
  | response r, .httpErrors =>
    if r.isFailed then some (Metrics.errorSeries r.method r.path r.kind) else none
  | _, _ => none

/-- How many requests a mark counts. -/
def requests : Mark → Nat
  | response _ => 1
  | _ => 0

/-- How many failed requests a mark counts. -/
def errors : Mark → Nat
  | response r => r.isFailed.toNat
  | _ => 0

/-- A mark that tells no time and no tasks. -/
def timeless : Mark → Mark
  | healthQuery operation outcome => healthQuery operation outcome
  | backendCall backend outcome _ => backendCall backend outcome (.zero false)
  | response r => response { r with seconds := .zero false, aliveTasks := 0 }

end Mark

namespace Ledger

/-- Enters a mark. -/
def enter (l : Ledger) (mark : Mark) : Ledger :=
  { l with
    requests := l.requests + mark.requests
    errors := l.errors + mark.errors
    tally := fun family =>
      match mark.series? family with
      | some series => (l.tally family).add series
      | none => l.tally family }

theorem enter_comm (l : Ledger) (mark mark' : Mark) :
    (l.enter mark).enter mark' = (l.enter mark').enter mark := by
  simp only [enter, Ledger.mk.injEq, true_and]
  refine ⟨by omega, by omega, funext fun family => ?_⟩
  cases mark.series? family with
  | none => rfl
  | some series =>
    cases mark'.series? family with
    | none => rfl
    | some series' => exact Tally.add_comm _ _ _

theorem enter_timeless (l : Ledger) (mark : Mark) : l.enter mark.timeless = l.enter mark := by
  have hseries (family : CountFamily) : mark.timeless.series? family = mark.series? family := by
    cases mark <;> cases family <;> rfl
  have hrequests : mark.timeless.requests = mark.requests := by cases mark <;> rfl
  have herrors : mark.timeless.errors = mark.errors := by cases mark <;> rfl
  simp only [enter, hseries, hrequests, herrors]

end Ledger

/-! ## The ledger of a run -/

namespace Metrics

/-- A mark changes the ledger by its entry. -/
theorem ledger_apply (m : Metrics) (mark : Mark) :
    (mark.apply m).ledger = m.ledger.enter mark := by
  cases mark with
  | healthQuery operation outcome =>
    refine Ledger.ext rfl rfl rfl rfl (funext fun family => ?_)
    cases family with
    | _ => rfl
  | backendCall backend outcome seconds =>
    refine Ledger.ext rfl rfl rfl rfl (funext fun family => ?_)
    cases family with
    | backendTimes => exact Timings.counts_observe _ _ _
    | _ => rfl
  | response r =>
    have happly : Mark.apply m (.response r) = r.complete m := rfl
    rw [happly, Recording.complete_record]
    refine Ledger.ext rfl ?_ rfl rfl (funext fun family => ?_)
    · show (if r.isFailed then m.errors + 1 else m.errors) = m.errors + r.isFailed.toNat
      cases r.isFailed <;> rfl
    · cases family with
      | httpTimes => exact Timings.counts_observe _ _ _
      | httpErrors =>
        show (if r.isFailed then _ else _) = _
        unfold Ledger.enter Mark.series?
        dsimp only
        split <;> rfl
      | _ => rfl

theorem ledger_foldl (marks : List Mark) (m : Metrics) :
    (marks.foldl Mark.apply m).ledger = (marks.map Mark.timeless).foldl Ledger.enter m.ledger := by
  induction marks generalizing m with
  | nil => rfl
  | cons mark rest ih =>
    rw [List.foldl_cons, ih, ledger_apply, List.map_cons, List.foldl_cons, Ledger.enter_timeless]

/-- **Marks may be left in any order**, and the times that they tell do not matter. -/
theorem ledger_of_perm {marks marks' : List Mark}
    (h : (marks.map Mark.timeless).Perm (marks'.map Mark.timeless)) (m : Metrics) :
    (marks.foldl Mark.apply m).ledger = (marks'.foldl Mark.apply m).ledger := by
  rw [ledger_foldl, ledger_foldl]
  exact h.foldl_eq' (fun x _ y _ l => Ledger.enter_comm l x y) m.ledger

end Metrics

/-! ## The text of counts -/

namespace Exposition

/-- Whether a sample tells a count, and not how times add up or are spread. -/
def Sample.isCount (s : Sample) : Bool := s.suffix != "_sum" && s.suffix != "_bucket"

/-- A family without the samples of sums and buckets. -/
def Family.steady (f : Family) : Family := { f with samples := f.samples.filter Sample.isCount }

/-- The text of the metrics without the lines of sums and buckets. -/
def steadyText (m : Metrics) : String :=
  String.ofList ((families m).flatMap fun f => familyText f.steady)

/-- The samples that tell how many values each series has observed. -/
def countSamples (names : List String) (counts : Tally) : List Sample :=
  counts.map fun (series, n) => ⟨"_count", names.zip series, decimal n⟩

variable (names : List String)

theorem filter_histogramSamples (labels : List (String × String)) (h : Histogram) :
    (histogramSamples labels h).filter Sample.isCount = [⟨"_count", labels, decimal h.count⟩] := by
  have hbuckets {f : String × String → Sample} (hf : ∀ bucket, (f bucket).isCount = false)
      (buckets : List (String × String)) : (buckets.map f).filter Sample.isCount = [] := by
    rw [List.filter_eq_nil_iff]
    intro s hs
    obtain ⟨bucket, -, rfl⟩ := List.mem_map.mp hs
    rw [hf bucket]
    exact Bool.false_ne_true
  unfold histogramSamples
  rw [List.filter_append, hbuckets fun _ => rfl, List.nil_append]
  rfl

theorem filter_timingsSamples (timings : Timings) :
    (timingsSamples names timings).filter Sample.isCount = countSamples names timings.counts := by
  induction timings with
  | nil => rfl
  | cons entry rest ih =>
    obtain ⟨series, h⟩ := entry
    show ((histogramSamples (names.zip series) h ++ timingsSamples names rest).filter
      Sample.isCount) = _
    rw [List.filter_append, filter_histogramSamples, ih]
    rfl

/-- The ledger tells the text of counts. -/
theorem steadyText_of_ledger {m m' : Metrics} (h : m.ledger = m'.ledger) :
    steadyText m = steadyText m' := by
  have htally := congrFun (congrArg Ledger.tally h)
  have hbackend : m.backendDurations.counts = m'.backendDurations.counts := htally .backendTimes
  have hbackendRequests : m.backendRequests = m'.backendRequests := htally .backendRequests
  have hhealth : m.healthQueries = m'.healthQueries := htally .healthQueries
  have herrors : m.httpErrors = m'.httpErrors := htally .httpErrors
  have htimes : m.httpDurations.counts = m'.httpDurations.counts := htally .httpTimes
  have hrequests : m.httpRequests = m'.httpRequests := htally .httpRequests
  have hpanics : m.panicsTotal = m'.panicsTotal := congrArg Ledger.panicsTotal h
  unfold steadyText families Family.steady
  simp only [List.flatMap_cons, filter_timingsSamples, hbackend, hbackendRequests, hhealth, herrors,
    htimes, hrequests, hpanics]

end Exposition

end ProbeGateway
