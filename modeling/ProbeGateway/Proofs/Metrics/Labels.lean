import ProbeGateway.Metrics.Exposition
import ProbeGateway.Proofs.Metrics.Conservation

/-!
# The paths that requests are told apart by

The families of requests, of failures and of times have a label for the path. `Metrics.PathsIn` says
that all paths found there are among some paths.

1. It is a property of the traffic (`PathsIn.congr`), which counting a handler that broke off keeps
   (`PathsIn.addPanic`), and so does recording a response with one of these paths
   (`PathsIn.complete`).
2. Every sample of these families has a path, and it is one of them (`PathsIn.lookup_path`).
-/

namespace ProbeGateway

namespace Metrics

/-- All paths that requests are told apart by are among some paths. -/
structure PathsIn (paths : List String) (m : Metrics) : Prop where
  requests : ∀ e ∈ m.httpRequests,
    ∃ path ∈ paths, ∃ method status, e.1 = requestSeries method path status
  errors : ∀ e ∈ m.httpErrors, ∃ path ∈ paths, ∃ method code, e.1 = errorSeries method path code
  times : ∀ e ∈ m.httpDurations, ∃ path ∈ paths, ∃ method, e.1 = routeSeries method path

namespace PathsIn

variable {paths : List String} {m m' : Metrics}

theorem fresh : PathsIn paths {} := ⟨nofun, nofun, nofun⟩

theorem iff_traffic : PathsIn paths m ↔ PathsIn paths m.traffic := by
  constructor
  · rintro ⟨hrequests, herrors, htimes⟩
    exact ⟨hrequests, herrors, htimes⟩
  · rintro ⟨hrequests, herrors, htimes⟩
    exact ⟨hrequests, herrors, htimes⟩

/-- Nothing but the traffic matters. -/
theorem congr (h : PathsIn paths m) (ht : m'.traffic = m.traffic) : PathsIn paths m' := by
  rw [iff_traffic, ht]
  exact iff_traffic.mp h

theorem addPanic (h : PathsIn paths m) : PathsIn paths m.addPanic := ⟨h.requests, h.errors, h.times⟩

/-- A recording adds series with its own path only. -/
theorem complete (h : PathsIn paths m) {r : Recording} (hr : r.path ∈ paths) :
    PathsIn paths (r.complete m) := by
  rw [Recording.complete_record]
  constructor
  case requests =>
    intro e he
    rcases Sorted.mem_update he with hself | hold
    · exact ⟨r.path, hr, r.method, r.status, hself⟩
    · exact h.requests e hold
  case errors =>
    intro e he
    dsimp only at he
    split at he
    · rcases Sorted.mem_update he with hself | hold
      · exact ⟨r.path, hr, r.method, r.kind, hself⟩
      · exact h.errors e hold
    · exact h.errors e he
  case times =>
    intro e he
    rcases Sorted.mem_update he with hself | hold
    · exact ⟨r.path, hr, r.method, hself⟩
    · exact h.times e hold

end PathsIn

end Metrics

/-! ## Samples -/

namespace Exposition

/-- The families that tell requests apart by their paths. -/
def pathFamilies : List String :=
  ["health_api_http_requests_total", "health_api_http_errors_total",
    "health_api_http_request_duration_seconds"]

/-- The samples of a histogram keep its labels, and may have one more behind them. -/
theorem labels_of_mem_histogramSamples {labels : List (String × String)} {h : Histogram}
    {s : Sample} (hs : s ∈ histogramSamples labels h) : ∃ more, s.labels = labels ++ more := by
  unfold histogramSamples at hs
  rcases List.mem_append.mp hs with hbucket | hrest
  · obtain ⟨bucket, -, rfl⟩ := List.mem_map.mp hbucket
    exact ⟨_, rfl⟩
  · simp only [List.mem_cons, List.not_mem_nil, or_false] at hrest
    rcases hrest with rfl | rfl | rfl
    · exact ⟨_, rfl⟩
    · exact ⟨[], (List.append_nil _).symm⟩
    · exact ⟨[], (List.append_nil _).symm⟩

variable {paths : List String} {m : Metrics}

/-- Every sample that tells requests apart has a path among them. -/
theorem lookup_path_of_pathsIn (h : m.PathsIn paths) {family : Family}
    (hfamily : family ∈ families m) (hname : family.name ∈ pathFamilies) {s : Sample}
    (hs : s ∈ family.samples) : ∃ path ∈ paths, s.labels.lookup "path" = some path := by
  simp only [families, List.mem_cons, List.not_mem_nil, or_false] at hfamily
  rcases hfamily with rfl | rfl | rfl | rfl | rfl | rfl | rfl
  · exact absurd hname (by simp [pathFamilies])
  · exact absurd hname (by simp [pathFamilies])
  · exact absurd hname (by simp [pathFamilies])
  · obtain ⟨⟨series, n⟩, he, rfl⟩ := List.mem_map.mp hs
    obtain ⟨path, hpath, method, code, hseries⟩ := h.errors _ he
    dsimp only at hseries
    subst hseries
    exact ⟨path, hpath, rfl⟩
  · obtain ⟨⟨series, histogram⟩, he, hsample⟩ := List.mem_flatMap.mp hs
    obtain ⟨path, hpath, method, hseries⟩ := h.times _ he
    dsimp only at hseries
    subst hseries
    obtain ⟨more, hlabels⟩ := labels_of_mem_histogramSamples hsample
    rw [hlabels]
    exact ⟨path, hpath, rfl⟩
  · obtain ⟨⟨series, n⟩, he, rfl⟩ := List.mem_map.mp hs
    obtain ⟨path, hpath, method, status, hseries⟩ := h.requests _ he
    dsimp only at hseries
    subst hseries
    exact ⟨path, hpath, rfl⟩
  · exact absurd hname (by simp [pathFamilies])

end Exposition

end ProbeGateway
