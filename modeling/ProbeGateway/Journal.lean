import ProbeGateway.Backend.Call
import ProbeGateway.Log.Event
import ProbeGateway.Metrics.Basic
import ProbeGateway.Profiler
import ProbeGateway.Time.Instant

/-!
# The journal

Everything a request leaves behind beside its response: the metrics, the log, and the calls made to
backends. An `Action` is a step that may read the journal and go on with another one. What a step
needs from outside, such as the time, is handed to it as a value.
-/

namespace ProbeGateway

/-- The traces of what was done. -/
structure Journal where
  metrics : Metrics := {}
  /-- What was logged, oldest first. -/
  events : List Event := []
  /-- The calls that were made, oldest first. -/
  calls : List Call := []
deriving DecidableEq, Repr

/-- A step that leaves traces. -/
abbrev Action := StateM Journal

namespace Journal

/-- Logs an event. -/
def log (event : Event) : Action Unit := modify fun j => { j with events := j.events ++ [event] }

/-- Changes the metrics. -/
def count (change : Metrics → Metrics) : Action Unit :=
  modify fun j => { j with metrics := change j.metrics }

/-- Notes a call. -/
def noteCall (call : Call) : Action Unit := modify fun j => { j with calls := j.calls ++ [call] }

@[simp] theorem run_log (event : Event) (j : Journal) :
    (log event).run j = ((), { j with events := j.events ++ [event] }) := rfl

@[simp] theorem run_count (change : Metrics → Metrics) (j : Journal) :
    (count change).run j = ((), { j with metrics := change j.metrics }) := rfl

@[simp] theorem run_noteCall (call : Call) (j : Journal) :
    (noteCall call).run j = ((), { j with calls := j.calls ++ [call] }) := rfl

end Journal

/-- What one request meets outside the service. -/
structure Surroundings where
  /-- What comes of a call to the backend with the rules. -/
  rules : Exchange
  /-- What comes of a call to the backend with the metrics. -/
  metrics : Exchange
  /-- The redirects that are followed in a call to the backend with the rules. -/
  rulesRedirects : Redirects := .none
  /-- The redirects that are followed in a call to the backend with the metrics. -/
  metricsRedirects : Redirects := .none
  now : Instant
  /-- The trace id that is given to a request without one. -/
  freshTraceId : String
  /-- The call stack at the time of a panic. -/
  backtrace : String
  /-- How long the request took, in seconds. -/
  elapsed : Binary64
  /-- How many tasks are alive. -/
  aliveTasks : Int
  /-- The profiler of the process. -/
  profile : Profiler

end ProbeGateway
