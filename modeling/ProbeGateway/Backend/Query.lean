import ProbeGateway.Backend.Url
import ProbeGateway.Journal
import ProbeGateway.Json.Record

/-!
# Instant queries

The backend with the metrics evaluates an expression and answers with an envelope: a status, the
result, and warnings or an error. Whether a query succeeded is decided by the envelope and the HTTP
status together.
-/

namespace ProbeGateway

/-- The result of a query. -/
structure QueryOutcome where
  resultType : String
  result : Json
  warnings : List String
deriving DecidableEq

namespace Query

/-! ## The envelope -/

/-- The part of an envelope that holds the result. -/
structure Data where
  resultType : String := ""
  result : Json := .null
deriving DecidableEq

/-- An answer of the backend. -/
structure Envelope where
  status : String
  data : Option Data
  errorType : Option String
  error : Option String
  warnings : List String
deriving DecidableEq

/-- Data whose members are still being read. -/
structure DataDraft where
  resultType : Option String := none
  result : Option Json := none

/-- The data that a draft amounts to. -/
def DataDraft.finish (d : DataDraft) : Option Data :=
  some ⟨d.resultType.getD "", d.result.getD .null⟩

/-- The fields of data. -/
def dataFields (levels : Nat) : List (Json.Field DataDraft) :=
  [Json.Field.of "resultType" (·.resultType.isSome) Json.readText
      (fun x d => { d with resultType := some x }) true,
    Json.Field.of "result" (·.result.isSome) (Json.readValue levels)
      (fun x d => { d with result := some x }) true]

/-- Reads data. -/
def readData (levels : Nat) : Json.Reader Data :=
  (Json.readRecord levels "QueryData" dataFields {}).complete DataDraft.finish

/-- An envelope whose members are still being read. -/
structure Draft where
  status : Option String := none
  data : Option (Option Data) := none
  errorType : Option (Option String) := none
  error : Option (Option String) := none
  warnings : Option (List String) := none

/-- The envelope that a draft amounts to. -/
def Draft.finish (d : Draft) : Option Envelope := do
  some ⟨← d.status, d.data.getD none, d.errorType.getD none, d.error.getD none,
    d.warnings.getD []⟩

/-- The fields of an envelope. -/
def fields (levels : Nat) : List (Json.Field Draft) :=
  [Json.Field.of "status" (·.status.isSome) Json.readText
      (fun x d => { d with status := some x }) false,
    Json.Field.of "data" (·.data.isSome) (Json.readOptional (readData levels))
      (fun x d => { d with data := some x }) true,
    Json.Field.of "errorType" (·.errorType.isSome) (Json.readOptional Json.readText)
      (fun x d => { d with errorType := some x }) true,
    Json.Field.of "error" (·.error.isSome) (Json.readOptional Json.readText)
      (fun x d => { d with error := some x }) true,
    Json.Field.of "warnings" (·.warnings.isSome)
      (Json.readList levels fun _ => Json.readText)
      (fun x d => { d with warnings := some x }) true]

/-- Reads an envelope. -/
def readEnvelope (levels : Nat) : Json.Reader Envelope :=
  (Json.readRecord levels "Envelope" fields {}).complete Draft.finish

/-- The envelope in the body of an answer. -/
def envelope? (body : Bytes) : Option Envelope :=
  (Json.parseWith (readEnvelope Json.maxLevels) body).toOption

/-! ## What an answer means -/

/-- The reason of a status, in the table that calls of this backend go by: it does not know 425. -/
def reasonOr (default : String) (status : Nat) : String :=
  if status = 425 then default else (Http.reason? status).getD default

/-- The failure of a query with a type and a message. -/
def failed (errorType message : String) : Failure :=
  .internal ("prometheus query failed: " ++ errorType ++ ": " ++ message)

/-- What a complete answer means. -/
def interpret (status : Nat) (envelope : Option Envelope) : Except Failure QueryOutcome :=
  match envelope with
  | some e =>
    if e.status = "success" ∧ Http.isSuccess status then
      let data := e.data.getD {}
      .ok ⟨data.resultType, data.result, e.warnings⟩
    else if e.status = "error" ∨ ¬ Http.isSuccess status then
      .error (failed (e.errorType.getD "server_error") (e.error.getD (reasonOr "unknown" status)))
    else .error (.internal "decoding prometheus response")
  | none =>
    if Http.isSuccess status then .error (.internal "decoding prometheus response")
    else .error (failed "server_error" ("status " ++ decimal status))

/-- What an exchange brought: an outcome, or the failure of the query or of the exchange. -/
def receive : Exchange → Except Failure QueryOutcome
  | .failed _ fault => .error (fault.failure "querying prometheus")
  | .brokenOff _ fault => .error (fault.failure "reading prometheus response")
  | .answered status body => interpret status (envelope? body)

/-! ## Asking -/

/-- The path of queries under the base address. -/
def queryPath : String := "/api/v1/query"

/-- An address that cannot be called. -/
def unusable : TransportFault := ⟨false, "builder error"⟩

/-- Sends an expression to the backend and returns what the exchange brought. -/
def call (base : String) (env : Surroundings) (expr : String) :
    Action (Except Failure QueryOutcome) :=
  match Url.parse? (Url.under base queryPath) with
  | none => pure (receive (.failed false unusable))
  | some url => do
    let url := url.withPairs [("query", expr)]
    Journal.noteCall ⟨.metrics, url, none, env.metricsRedirects, env.metrics.seen⟩
    pure (receive env.metrics)

/-- Logs the warnings of a successful query, in order. -/
def logWarnings (expr : String) : Except Failure QueryOutcome → Action Unit
  | .ok outcome => outcome.warnings.forM fun w => Journal.log (.queryWarning expr w)
  | .error _ => pure ()

/-- Evaluates an expression at the backend, and records what came of it. -/
def run (base : String) (env : Surroundings) (expr : String) :
    Action (Except Failure QueryOutcome) := do
  let result ← call base env expr
  Journal.count (.recordBackend Backend.metrics.name Backend.metrics.endpoint
    (Metrics.outcome result) env.elapsed)
  logWarnings expr result
  return result

end Query

end ProbeGateway
