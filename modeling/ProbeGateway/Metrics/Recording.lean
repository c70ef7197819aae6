import ProbeGateway.Metrics.Basic

/-!
# Recording a response

A response is recorded in single steps, each of which leaves the metrics whole: between two steps of
one recording other recordings may take theirs. A recording goes through its stages in a fixed
order, and what it does next hangs on its response and on the count that it was given at its first
step. A step tells which operation it carries out on the metrics, and the metrics change by this
operation alone. Recording without interruption is six steps.
-/

namespace ProbeGateway

namespace Metrics

/-- An operation that a recording carries out on the metrics. -/
inductive Operation
  | addRequest
  | sampleWorkers (alive : Int)
  | countResponse (method path : String) (status : Nat)
  | timeResponse (method path : String) (seconds : Binary64)
  | addError
  | recordError (method path code : String)
deriving DecidableEq, Repr

/-- How many tasks an operation found alive, if it counts them. -/
def Operation.sampled? : Operation → Option Int
  | sampleWorkers alive => some alive
  | _ => none

/-- Carries out an operation. -/
def perform : Operation → Metrics → Metrics
  | .addRequest => addRequest
  | .sampleWorkers alive => sampleWorkers alive
  | .countResponse method path status => countResponse method path status
  | .timeResponse method path seconds => timeResponse method path seconds
  | .addError => addError
  | .recordError method path code => recordError method path code

/-- The metrics after the operation of a step, if it has one. -/
def after (m : Metrics) (operation? : Option Operation) : Metrics :=
  operation?.elim m (perform · m)

end Metrics

/-- A response that is to be recorded. -/
structure Recording where
  method : String
  /-- The template that the request went to. -/
  path : String
  status : Nat
  /-- The name of the kind that a failed response is counted under. -/
  kind : String
  seconds : Binary64
  /-- How many tasks are alive, should they be counted. -/
  aliveTasks : Int
deriving DecidableEq, Repr

namespace Recording

/-- How far a recording is. -/
inductive Stage
  | arrived
  /-- The request was counted, and was given its number. -/
  | counted (number : Nat)
  | labelling
  | timing
  | failing
  | blaming
  | done
deriving DecidableEq, Repr

/-- Whether a response counts as failed. -/
def isFailed (r : Recording) : Bool := 400 ≤ r.status

/-- Whether tasks are counted at the request with a number. -/
def samplesAt (number : Nat) : Bool := number % Metrics.sampleInterval = 0

/-- One step of a recording: the stage behind it, and the operation that it carries out. -/
def step (r : Recording) : Stage → Metrics → Stage × Option Metrics.Operation
  | .arrived, m => (.counted (m.requests + 1), some .addRequest)
  | .counted number, _ =>
    (.labelling, if samplesAt number then some (.sampleWorkers r.aliveTasks) else none)
  | .labelling, _ => (.timing, some (.countResponse r.method r.path r.status))
  | .timing, _ =>
    (if r.isFailed then .failing else .done, some (.timeResponse r.method r.path r.seconds))
  | .failing, _ => (.blaming, some .addError)
  | .blaming, _ => (.done, some (.recordError r.method r.path r.kind))
  | .done, _ => (.done, none)

/-- Several steps without interruption. -/
def steps (r : Recording) : Nat → Stage × Metrics → Stage × Metrics
  | 0, s => s
  | n + 1, s =>
    let next := r.step s.1 s.2
    r.steps n (next.1, s.2.after next.2)

/-- Records a response without interruption. -/
def complete (r : Recording) (m : Metrics) : Metrics := (r.steps 6 (.arrived, m)).2

/-- Six steps reach the last stage. -/
theorem steps_six (r : Recording) (m : Metrics) : (r.steps 6 (.arrived, m)).1 = .done := by
  by_cases h : r.isFailed <;> simp [steps, step, h]

/-- The metrics after a recording, operation by operation. -/
theorem complete_eq (r : Recording) (m : Metrics) :
    r.complete m =
      let m := m.addRequest
      let m := if samplesAt m.requests then m.sampleWorkers r.aliveTasks else m
      let m := m.recordRequest r.method r.path r.status r.seconds
      if r.isFailed then m.addError.recordError r.method r.path r.kind else m := by
  by_cases h : r.isFailed <;> by_cases hs : samplesAt (m.requests + 1) <;>
    simp [complete, steps, step, h, hs, Metrics.recordRequest, Metrics.after, Metrics.perform,
      Metrics.addRequest]

/-- The metrics after a recording, field by field. -/
theorem complete_record (r : Recording) (m : Metrics) :
    r.complete m =
      { m with
        requests := m.requests + 1
        workers := if samplesAt (m.requests + 1) then r.aliveTasks else m.workers
        httpRequests := m.httpRequests.add (Metrics.requestSeries r.method r.path r.status)
        httpDurations := m.httpDurations.observe (Metrics.routeSeries r.method r.path) r.seconds
        errors := if r.isFailed then m.errors + 1 else m.errors
        httpErrors :=
          if r.isFailed then m.httpErrors.add (Metrics.errorSeries r.method r.path r.kind)
          else m.httpErrors } := by
  rw [complete_eq]
  by_cases h : r.isFailed <;> by_cases hs : samplesAt (m.requests + 1) <;>
    simp [h, hs, Metrics.addRequest] <;> rfl

end Recording

end ProbeGateway
