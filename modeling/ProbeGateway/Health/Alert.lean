import ProbeGateway.Health.Check

/-!
# Alerts

One alert rule as its backend reports it, and the summary of many with the number of rules in each
of the three states that are counted.
-/

namespace ProbeGateway

/-- An alert rule and its state. -/
structure Alert where
  title : String
  state : String
  labels : Sorted String String
  annotations : Sorted String String
  activeAt : Option String
  value : Option String
deriving DecidableEq, Repr

namespace Alert

/-- A map of strings as JSON. -/
def mapJson (entries : Sorted String String) : Json :=
  .object (entries.map fun entry => (entry.1, .text entry.2))

/-- An alert as JSON. -/
def json (a : Alert) : Json :=
  .object ([("title", .text a.title), ("state", .text a.state), ("labels", mapJson a.labels),
    ("annotations", mapJson a.annotations)] ++
    Json.optionalMember "activeAt" a.activeAt ++ Json.optionalMember "value" a.value)

/-- An alert whose members are still being read. -/
structure Draft where
  title : Option String := none
  state : Option String := none
  labels : Option (Sorted String String) := none
  annotations : Option (Sorted String String) := none
  activeAt : Option (Option String) := none
  value : Option (Option String) := none

/-- The alert that a draft amounts to. -/
def Draft.finish (d : Draft) : Option Alert := do
  some ⟨← d.title, ← d.state, ← d.labels, ← d.annotations, d.activeAt.getD none,
    d.value.getD none⟩

/-- The fields of an alert. -/
def fields (levels : Nat) : List (Json.Field Draft) :=
  [Json.Field.of "title" (·.title.isSome) Json.readText
      (fun x d => { d with title := some x }) false,
    Json.Field.of "state" (·.state.isSome) Json.readText
      (fun x d => { d with state := some x }) false,
    Json.Field.of "labels" (·.labels.isSome) (Json.readTextMap levels)
      (fun x d => { d with labels := some x }) false,
    Json.Field.of "annotations" (·.annotations.isSome) (Json.readTextMap levels)
      (fun x d => { d with annotations := some x }) false,
    Json.Field.of "activeAt" (·.activeAt.isSome) (Json.readOptional Json.readText)
      (fun x d => { d with activeAt := some x }) true,
    Json.Field.of "value" (·.value.isSome) (Json.readOptional Json.readText)
      (fun x d => { d with value := some x }) true]

/-- Reads an alert. -/
def read (levels : Nat) : Json.Reader Alert :=
  (Json.readRecord levels "Alert" fields {}).complete Draft.finish

end Alert

/-- Many alerts, and how many rules are in each counted state. -/
structure AlertSummary where
  total : Nat := 0
  firing : Nat := 0
  pending : Nat := 0
  normal : Nat := 0
  alerts : List Alert := []
deriving DecidableEq, Repr

namespace AlertSummary

/-- Adds an alert at the end, and one to the counter of its state if that state is counted. -/
def push (s : AlertSummary) (a : Alert) : AlertSummary where
  total := s.total + 1
  firing := s.firing + if a.state = "firing" then 1 else 0
  pending := s.pending + if a.state = "pending" then 1 else 0
  normal := s.normal + if a.state = "normal" then 1 else 0
  alerts := s.alerts ++ [a]

/-- The summary of a list of alerts. -/
def ofAlerts (alerts : List Alert) : AlertSummary := alerts.foldl push {}

/-- A summary as JSON. -/
def json (s : AlertSummary) : Json :=
  .object [("total", .nat s.total), ("firing", .nat s.firing), ("pending", .nat s.pending),
    ("normal", .nat s.normal), ("alerts", .array (s.alerts.map Alert.json))]

/-- A summary whose members are still being read. -/
structure Draft where
  total : Option Nat := none
  firing : Option Nat := none
  pending : Option Nat := none
  normal : Option Nat := none
  alerts : Option (List Alert) := none

/-- The summary that a draft amounts to. -/
def Draft.finish (d : Draft) : Option AlertSummary := do
  some ⟨← d.total, ← d.firing, ← d.pending, ← d.normal, ← d.alerts⟩

/-- The fields of a summary. -/
def fields (levels : Nat) : List (Json.Field Draft) :=
  [Json.Field.of "total" (·.total.isSome) Json.readCountNumber
      (fun x d => { d with total := some x }) false,
    Json.Field.of "firing" (·.firing.isSome) Json.readCountNumber
      (fun x d => { d with firing := some x }) false,
    Json.Field.of "pending" (·.pending.isSome) Json.readCountNumber
      (fun x d => { d with pending := some x }) false,
    Json.Field.of "normal" (·.normal.isSome) Json.readCountNumber
      (fun x d => { d with normal := some x }) false,
    Json.Field.of "alerts" (·.alerts.isSome) (Json.readList levels Alert.read)
      (fun x d => { d with alerts := some x }) false]

/-- Reads a summary. -/
def read (levels : Nat) : Json.Reader AlertSummary :=
  (Json.readRecord levels "AlertSummary" fields {}).complete Draft.finish

end AlertSummary

end ProbeGateway
