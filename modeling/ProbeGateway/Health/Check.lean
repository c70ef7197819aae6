import ProbeGateway.Json.Record
import ProbeGateway.Time.Reading

/-!
# Health checks

The health of one target, and the summary of many with the number of targets in each state. Both
have a JSON form that is written with the members in a fixed order and read by name or by position.
-/

namespace ProbeGateway

/-- The health of a target. -/
inductive HealthStatus
  | healthy
  | down
  | unknown
deriving DecidableEq, Repr

namespace HealthStatus

/-- The name of a status. -/
def name : HealthStatus → String
  | healthy => "healthy"
  | down => "down"
  | unknown => "unknown"

/-- The statuses by name. -/
def cases : List (String × HealthStatus) :=
  [("healthy", healthy), ("down", down), ("unknown", unknown)]

/-- The status of a target whose rule is in the given state: a rule that fires has found the target
down, one that is pending is about to, and any other finds it healthy. -/
def ofRuleState (state : String) : HealthStatus :=
  if state = "firing" then down else if state = "pending" then unknown else healthy

/-- A status as JSON. -/
def json (s : HealthStatus) : Json := .text s.name

/-- Reads a status. -/
def read (levels : Nat) : Json.Reader HealthStatus := Json.readCase levels cases

end HealthStatus

/-- What one check found out about a target. -/
structure HealthCheck where
  target : String
  status : HealthStatus
  lastChecked : Instant
  probe : String
  instanceName : Option String
deriving DecidableEq, Repr

namespace HealthCheck

/-- A check as JSON. -/
def json (c : HealthCheck) : Json :=
  .object ([("target", .text c.target), ("status", c.status.json),
    ("last_checked", .text c.lastChecked.text), ("probe", .text c.probe)] ++
    Json.optionalMember "instance" c.instanceName)

/-- A check whose members are still being read. -/
structure Draft where
  target : Option String := none
  status : Option HealthStatus := none
  lastChecked : Option Instant := none
  probe : Option String := none
  instanceName : Option (Option String) := none

/-- The check that a draft amounts to. -/
def Draft.finish (d : Draft) : Option HealthCheck := do
  some ⟨← d.target, ← d.status, ← d.lastChecked, ← d.probe, d.instanceName.getD none⟩

/-- Reads an instant in the relaxed form. -/
def readInstant : Json.Reader Instant :=
  Json.readTextWith "an RFC 3339 formatted date and time string" fun s rest =>
    match Instant.parseRelaxed s with
    | .ok t => .ok (t, rest)
    | .error e => Json.failHere (.refused e.message) rest

/-- The fields of a check. -/
def fields (levels : Nat) : List (Json.Field Draft) :=
  [Json.Field.of "target" (·.target.isSome) Json.readText
      (fun x d => { d with target := some x }) false,
    Json.Field.of "status" (·.status.isSome) (HealthStatus.read levels)
      (fun x d => { d with status := some x }) false,
    Json.Field.of "last_checked" (·.lastChecked.isSome) readInstant
      (fun x d => { d with lastChecked := some x }) false,
    Json.Field.of "probe" (·.probe.isSome) Json.readText
      (fun x d => { d with probe := some x }) false,
    Json.Field.of "instance" (·.instanceName.isSome) (Json.readOptional Json.readText)
      (fun x d => { d with instanceName := some x }) true]

/-- Reads a check. -/
def read (levels : Nat) : Json.Reader HealthCheck :=
  (Json.readRecord levels "HealthCheck" fields {}).complete Draft.finish

end HealthCheck

/-- Many checks, and how many targets are in each state. -/
structure HealthSummary where
  total : Nat
  healthy : Nat
  down : Nat
  unknown : Nat
  checks : List HealthCheck
deriving DecidableEq, Repr

namespace HealthSummary

/-- Adds one to the counter of a status. -/
def count (s : HealthSummary) : HealthStatus → HealthSummary
  | .healthy => { s with healthy := s.healthy + 1 }
  | .down => { s with down := s.down + 1 }
  | .unknown => { s with unknown := s.unknown + 1 }

/-- The summary of a list of checks. -/
def ofChecks (checks : List HealthCheck) : HealthSummary :=
  checks.foldl (fun s c => s.count c.status) ⟨checks.length, 0, 0, 0, checks⟩

/-- A summary as JSON. -/
def json (s : HealthSummary) : Json :=
  .object [("total", .nat s.total), ("healthy", .nat s.healthy), ("down", .nat s.down),
    ("unknown", .nat s.unknown), ("checks", .array (s.checks.map HealthCheck.json))]

/-- A summary whose members are still being read. -/
structure Draft where
  total : Option Nat := none
  healthy : Option Nat := none
  down : Option Nat := none
  unknown : Option Nat := none
  checks : Option (List HealthCheck) := none

/-- The summary that a draft amounts to. -/
def Draft.finish (d : Draft) : Option HealthSummary := do
  some ⟨← d.total, ← d.healthy, ← d.down, ← d.unknown, ← d.checks⟩

/-- The fields of a summary. -/
def fields (levels : Nat) : List (Json.Field Draft) :=
  [Json.Field.of "total" (·.total.isSome) Json.readCountNumber
      (fun x d => { d with total := some x }) false,
    Json.Field.of "healthy" (·.healthy.isSome) Json.readCountNumber
      (fun x d => { d with healthy := some x }) false,
    Json.Field.of "down" (·.down.isSome) Json.readCountNumber
      (fun x d => { d with down := some x }) false,
    Json.Field.of "unknown" (·.unknown.isSome) Json.readCountNumber
      (fun x d => { d with unknown := some x }) false,
    Json.Field.of "checks" (·.checks.isSome) (Json.readList levels HealthCheck.read)
      (fun x d => { d with checks := some x }) false]

/-- Reads a summary. -/
def read (levels : Nat) : Json.Reader HealthSummary :=
  (Json.readRecord levels "HealthSummary" fields {}).complete Draft.finish

end HealthSummary

end ProbeGateway
