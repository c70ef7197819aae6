import ProbeGateway.Metrics.Exposition
import ProbeGateway.Pipeline.App
import ProbeGateway.Service.Profile

/-!
# The application for inspection

A second application shows the process to its keepers: its plain counters, its metrics as text, and
profiles of what it spends its time on. Its routes are bare, and it reads the metrics without
changing them.
-/

namespace ProbeGateway

/-- The version of the service. -/
def serviceVersion : String := "0.1.0"

namespace Inspection

/-! ## Counters and metrics -/

/-- The plain counters and the version as JSON. -/
def varsJson (s : CounterSnapshot) : Json :=
  .object (("build", .text serviceVersion) :: s.members)

/-- Shows the plain counters. -/
def vars : Handler := fun _ =>
  return .answered (.ofJson (varsJson (← get).metrics.snapshot))

/-- The media type of the metrics as text. -/
def expositionType : String := "text/plain; version=0.0.4"

/-- Shows the metrics as text. -/
def metricsText : Handler := fun _ =>
  return .answered (.ofBody 200 expositionType (octets (Exposition.text (← get).metrics)))

/-! ## Profiles -/

/-- The answer to a form that is refused. -/
def refusal (fault : ProfileFault) : Response :=
  .ofBody 400 "text/plain; charset=utf-8"
    (octets ("Failed to deserialize query string: " ++ fault.message))

/-- The answer to seconds that are out of range. -/
def outOfRange : Response :=
  (Failure.invalidArgument
    ("seconds must be between 1 and " ++ decimal ProfileParams.maxSeconds)).response

/-- How often in a second a profile is sampled. -/
def sampleFrequency : Nat := 100

/-- The libraries that a profile passes over. -/
def blocklist : List String := ["libc", "libgcc", "pthread", "vdso"]

/-- What a profiler refuses to start for while another profile is being taken. -/
def busy : ProfilerFault := .running

/-- What comes of a call, where a refusal becomes a failure that tells what was being done. -/
def orFail {ε α : Type} (fail : String → Failure) (doing : String) (words : ε → String) :
    Except ε α → Except Failure α :=
  Except.mapError fun e => fail (doing ++ ": " ++ words e)

/-- The octets of a report in a format. -/
def encoded (profiler : Profiler) : ProfileFormat → Except Failure Bytes
  | .protobuf => do
    orFail .internal "encoding profile" (·.message) profiler.message
    orFail .internal "encoding profile" id profiler.encode
  | .flamegraph => orFail .internal "rendering flame graph" (·.message) profiler.flamegraph

/-- A profile in its format, with its media type. -/
def capture (profiler : Profiler) (p : ProfileParams) : Except Failure (Bytes × String) := do
  orFail .unavailable "starting profiler" (·.message) (profiler.start sampleFrequency blocklist)
  orFail .internal "building profile" (·.message) (profiler.report p.seconds)
  let body ← encoded profiler p.format
  return (body, p.format.mediaType)

/-- What comes of the task that takes a profile. -/
def captured (profiler : Profiler) (p : ProfileParams) : Except Failure (Bytes × String) :=
  match profiler.brokenOff? with
  | some words => .error (.internal ("profiling task: " ++ words))
  | none => capture profiler p

/-- A finished profile, or the failure in its place. -/
def profileResponse : Except Failure (Bytes × String) → Response
  | .ok (body, mediaType) => .ofBody 200 mediaType body
  | .error e => e.response

/-- Takes a profile. -/
def takeProfile (env : Surroundings) (p : ProfileParams) : Action Response := do
  Journal.log (.profileStarted p.seconds p.format.name)
  return profileResponse (captured env.profile p)

/-- Takes the profile that a form asks for. -/
def profile (env : Surroundings) : Handler := fun incoming =>
  match ProfileParams.ofQuery (incoming.request.query.getD "") with
  | .error fault => return .answered (refusal fault)
  | .ok p =>
    if p.inRange then do return .answered (← takeProfile env p)
    else return .answered outOfRange

/-! ## Routes -/

/-- The routes for inspection. -/
def routes : List Route :=
  [⟨.bare, "/debug/vars", some .get, fun _ => vars⟩,
    ⟨.bare, "/metrics", some .get, fun _ => metricsText⟩,
    ⟨.bare, "/debug/pprof/profile", some .get, profile⟩]

/-- The application for inspection; it has no layers to be set up. -/
def app : App := ⟨⟨"*"⟩, routes⟩

end Inspection

end ProbeGateway
