import ProbeGateway.Text.Utf8

/-!
# The profiler of the process

A process can sample what it spends its time on. Its profiler is not part of this library: a
`Profiler` tells what comes of each call that is made of it. It takes one profile at a time, and
refuses to start while another one is being taken.
-/

namespace ProbeGateway

/-- Why a profiler refuses a call. -/
inductive ProfilerFault
  /-- A call of the system failed. -/
  | system (words : String)
  | notCreated
  /-- Another profile is being taken. -/
  | running
  | notRunning
deriving DecidableEq, Repr

/-- The wording of a refusal. -/
def ProfilerFault.message : ProfilerFault → String
  | system words => words
  | notCreated => "create profiler error"
  | running => "start running cpu profiler error"
  | notRunning => "stop running cpu profiler error"

/-- What comes of the calls of a profiler. -/
structure Profiler where
  /-- Starts to sample, so often in a second, and passes over some libraries. -/
  start : (frequency : Nat) → (blocklist : List String) → Except ProfilerFault Unit
  /-- Puts together what was sampled in so many seconds. -/
  report : (seconds : Nat) → Except ProfilerFault Unit
  /-- Makes a message of the report. -/
  message : Except ProfilerFault Unit
  /-- The octets of the message, or the words of its encoder. -/
  encode : Except String Bytes
  /-- Draws the report. -/
  flamegraph : Except ProfilerFault Bytes
  /-- The words of the runtime, if the task that makes the calls breaks off. -/
  brokenOff? : Option String

namespace Profiler

/-- A profiler that gives a profile, in either format the same. -/
def ok (profile : Bytes) : Profiler where
  start _ _ := .ok ()
  report _ := .ok ()
  message := .ok ()
  encode := .ok profile
  flamegraph := .ok profile
  brokenOff? := none

/-- A profiler that does not start. -/
def error (fault : ProfilerFault) : Profiler := { ok [] with start := fun _ _ => .error fault }

/-- Another profile is being taken: the profiler does not start for anybody, and tells so. -/
structure IsBusy (profiler : Profiler) : Prop where
  start : ∀ frequency blocklist, profiler.start frequency blocklist = .error .running
  lasts : profiler.brokenOff? = none

theorem isBusy_error : (error .running).IsBusy := ⟨fun _ _ => rfl, rfl⟩

end Profiler

end ProbeGateway
