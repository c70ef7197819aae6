import ProbeGateway.Failure.Basic
import ProbeGateway.Http.Status

/-!
# Exchanges with a backend

What came of a call to a backend, as the caller can tell: a whole answer, an answer whose body broke
off, or none. A call that timed out has failed differently from one that failed in any other way. Of
a call that is redirected it is what comes in the end.
-/

namespace ProbeGateway

/-- How a transport failed. -/
structure TransportFault where
  timedOut : Bool
  /-- The transport's own words. -/
  detail : String
deriving DecidableEq, Repr

/-- What came of a call. -/
inductive Exchange
  /-- The whole answer arrived. -/
  | answered (status : Nat) (body : Bytes)
  /-- The status arrived, and the body did not, or not all of it. -/
  | brokenOff (status : Nat) (fault : TransportFault)
  /-- No answer arrived, from one that may have seen the request or not. -/
  | failed (seen : Bool) (fault : TransportFault)
deriving DecidableEq, Repr

/-- The failure of a call for a given purpose: a timeout is a missed deadline, and any other fault
means that the backend cannot be reached. -/
def TransportFault.failure (fault : TransportFault) (purpose : String) : Failure where
  kind := if fault.timedOut then .deadlineExceeded else .unavailable
  message := purpose ++ ": " ++ fault.detail

/-- Whether the request arrived. -/
def Exchange.seen : Exchange → Bool
  | answered .. | brokenOff .. => true
  | failed seen _ => seen

/-- The backends that the service calls. -/
inductive Backend
  | rules
  | metrics
deriving DecidableEq, Repr

/-- The name of a backend in metrics. -/
def Backend.name : Backend → String
  | rules => "grafana"
  | metrics => "prometheus"

/-- The name of the endpoint that is called at a backend. -/
def Backend.endpoint : Backend → String
  | rules => "rules"
  | metrics => "query"

end ProbeGateway
