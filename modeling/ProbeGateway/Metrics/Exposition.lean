import ProbeGateway.Metrics.Basic

/-!
# The exposition format

The families of the metrics as lines of text: for each family that has series its help, its type,
and a line per sample. Families stand in the order of their names, series in the order of their
label values.
-/

namespace ProbeGateway.Exposition

/-- One line of samples: a suffix of the family's name, labels, and a value. -/
structure Sample where
  suffix : String
  labels : List (String × String)
  value : String
deriving DecidableEq, Repr

/-- A family, with its samples. -/
structure Family where
  name : String
  help : String
  type : String
  samples : List Sample
deriving DecidableEq, Repr

/-! ## Lines -/

/-- How a character is written inside the value of a label. -/
def escape (c : Char) : List Char :=
  if c = '\\' then ['\\', '\\']
  else if c = '\n' then ['\\', 'n']
  else if c = '"' then ['\\', '"']
  else [c]

/-- A label and its value. -/
def labelText (label : String × String) : List Char :=
  label.1.toList ++ ['=', '"'] ++ label.2.toList.flatMap escape ++ ['"']

/-- Labels between braces; nothing where there are none. -/
def labelsText : List (String × String) → List Char
  | [] => []
  | label :: rest =>
    '\x7b' :: labelText label ++ rest.flatMap (fun l => ',' :: labelText l) ++ ['\x7d']

/-- The line of a sample. -/
def sampleText (name : String) (s : Sample) : List Char :=
  name.toList ++ s.suffix.toList ++ labelsText s.labels ++ ' ' :: s.value.toList ++ ['\n']

/-- The lines of a family; none if it has no sample. -/
def familyText (f : Family) : List Char :=
  if f.samples.isEmpty then []
  else
    "# HELP ".toList ++ f.name.toList ++ ' ' :: f.help.toList ++ "\n# TYPE ".toList ++
      f.name.toList ++ ' ' :: f.type.toList ++ '\n' :: f.samples.flatMap (sampleText f.name)

/-! ## Families -/

/-- The samples of a family of counters. -/
def tallySamples (names : List String) (tally : Tally) : List Sample :=
  tally.map fun (series, n) => ⟨"", names.zip series, decimal n⟩

/-- The samples of one histogram: its buckets, its sum and its count. -/
def histogramSamples (labels : List (String × String)) (h : Histogram) : List Sample :=
  let bounds := Histogram.bounds.map NumberStyle.plain.text
  let counts := (Histogram.cumulative 0 h.buckets).map decimal
  ((bounds.zip counts).map fun (bound, n) => ⟨"_bucket", labels ++ [("le", bound)], n⟩) ++
    [⟨"_bucket", labels ++ [("le", "+Inf")], decimal h.count⟩,
      ⟨"_sum", labels, NumberStyle.plain.text h.sum⟩, ⟨"_count", labels, decimal h.count⟩]

/-- The samples of a family of histograms. -/
def timingsSamples (names : List String) (timings : Timings) : List Sample :=
  timings.flatMap fun (series, h) => histogramSamples (names.zip series) h

/-- The families of the metrics, by name. -/
def families (m : Metrics) : List Family :=
  [⟨"health_api_backend_request_duration_seconds", "Upstream backend request duration in seconds",
      "histogram", timingsSamples ["backend", "endpoint"] m.backendDurations⟩,
    ⟨"health_api_backend_requests_total", "Total number of requests to upstream backends",
      "counter", tallySamples ["backend", "endpoint", "outcome"] m.backendRequests⟩,
    ⟨"health_api_health_check_queries_total", "Total number of health check queries",
      "counter", tallySamples ["operation", "outcome"] m.healthQueries⟩,
    ⟨"health_api_http_errors_total", "Total number of HTTP errors",
      "counter", tallySamples ["code", "method", "path"] m.httpErrors⟩,
    ⟨"health_api_http_request_duration_seconds", "HTTP request duration in seconds",
      "histogram", timingsSamples ["method", "path"] m.httpDurations⟩,
    ⟨"health_api_http_requests_total", "Total number of HTTP requests",
      "counter", tallySamples ["method", "path", "status"] m.httpRequests⟩,
    ⟨"health_api_panics_total", "Total number of panics recovered",
      "counter", [⟨"", [], decimal m.panicsTotal⟩]⟩]

/-- The text of the metrics. -/
def text (m : Metrics) : String := String.ofList ((families m).flatMap familyText)

end ProbeGateway.Exposition
