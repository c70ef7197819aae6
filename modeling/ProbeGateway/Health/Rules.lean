import ProbeGateway.Health.Alert

/-!
# Alert rules in a payload

The backend reports its alert rules as JSON, in groups. The payload is walked tolerantly: what has
another type than expected counts as missing, and what is missing is skipped, empty or absent. One
walk lists the rules; a health check and an alert are two views of a rule.
-/

namespace ProbeGateway

/-- An alert rule as it stands in a payload. -/
structure Rule where
  name : String
  state : String
  labels : Sorted String String
  annotations : Sorted String String
  activeAt : Option String
  value : Option String
deriving DecidableEq, Repr

namespace Rule

/-! ## Reading a rule -/

/-- The text under a key; empty if there is none. -/
def textUnder (key : String) (members : List (String × Json)) : String :=
  ((Sorted.find? key members).bind Json.text?).getD ""

/-- The entries under a key whose values are texts. -/
def textsUnder (key : String) (members : List (String × Json)) : Sorted String String :=
  (((Sorted.find? key members).bind Json.members?).getD []).filterMap fun entry =>
    entry.2.text?.map fun s => (entry.1, s)

/-- The members of the first alert of a rule. -/
def firstAlert? (members : List (String × Json)) : Option (List (String × Json)) := do
  let alerts ← (Sorted.find? "alerts" members).bind Json.items?
  let first ← alerts.head?
  first.members?

/-- The text under a key of the first alert, unless it is empty. -/
def alertText? (key : String) (members : List (String × Json)) : Option String :=
  ((firstAlert? members).map (textUnder key)).filter fun s => s ≠ ""

/-- The rule that the members of an object amount to. -/
def ofMembers (members : List (String × Json)) : Rule where
  name := textUnder "name" members
  state := textUnder "state" members
  labels := textsUnder "labels" members
  annotations := textsUnder "annotations" members
  activeAt := alertText? "activeAt" members
  value := alertText? "value" members

/-- The rules of a group. -/
def ofGroup (group : Json) : List Rule :=
  (((group.get? "rules").bind Json.items?).getD []).filterMap fun rule =>
    rule.members?.map ofMembers

/-- The rules of a payload, in order. -/
def ofPayload (payload : Json) : List Rule :=
  ((((payload.get? "data").bind (Json.get? "groups")).bind Json.items?).getD []).flatMap ofGroup

/-! ## Views of a rule -/

/-- The instant at which a rule became active, unless that is no instant or stands for "never". -/
def activeInstant? (s : String) : Option Instant :=
  (Instant.parseStrict s).toOption.filter fun t => t ≠ .never

/-- A label, unless it is empty. -/
def label? (name : String) (rule : Rule) : Option String :=
  (Sorted.find? name rule.labels).filter fun s => s ≠ ""

/-- The health check that a rule is, if it names a target. -/
def check? (now : Instant) (rule : Rule) : Option HealthCheck :=
  (rule.label? "target").map fun target =>
    { target := target
      status := .ofRuleState rule.state
      lastChecked := (rule.activeAt.bind activeInstant?).getD now
      probe := (Sorted.find? "probe" rule.labels).getD ""
      instanceName := rule.label? "instance" }

/-- The alert that a rule is. -/
def alert (rule : Rule) : Alert :=
  ⟨rule.name, rule.state, rule.labels, rule.annotations, rule.activeAt, rule.value⟩

/-- The health checks among rules, in order. -/
def checks (now : Instant) (rules : List Rule) : List HealthCheck := rules.filterMap (check? now)

end Rule

end ProbeGateway
