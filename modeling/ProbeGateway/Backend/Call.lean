import ProbeGateway.Backend.Exchange
import ProbeGateway.Backend.Url

/-!
# Calls

A call of a backend is one request that is sent, and one more for each redirect that the client
follows by itself. The client follows ten redirects at most. It takes the credentials along while
the host and the port stay the same, and does not take them up again once it has left them.
-/

namespace ProbeGateway

/-- The port that is called at an address. -/
def Url.effectivePort (url : Url) : Nat := url.port.getD (schemePort url.scheme)

/-- Whether two addresses have the same host and the same port. The schemes do not count. -/
def Url.isSameServer (url other : Url) : Bool :=
  url.host = other.host && url.effectivePort = other.effectivePort

/-! ## Redirects -/

/-- How many redirects the client follows in one call. -/
def maxRedirects : Nat := 10

/-- The addresses that answers send the client on to in one call, in order. -/
structure Redirects where
  urls : List Url
  within : urls.length ≤ maxRedirects
deriving DecidableEq, Repr

/-- No answer sends the client on. -/
def Redirects.none : Redirects := ⟨[], Nat.zero_le _⟩

/-! ## Requests that go out -/

/-- A request that goes out. -/
structure Outgoing where
  url : Url
  /-- The value of the header with credentials. -/
  authorization : Option String
deriving DecidableEq, Repr

namespace Outgoing

/-- The request to the address that the answer to a request names. -/
def redirected (previous : Outgoing) (url : Url) : Outgoing where
  url := url
  authorization := if previous.url.isSameServer url then previous.authorization else none

/-- The requests that follow a request along redirects. -/
def along (previous : Outgoing) : List Url → List Outgoing
  | [] => []
  | url :: urls => previous.redirected url :: (previous.redirected url).along urls

end Outgoing

/-- A call that was made. -/
structure Call where
  backend : Backend
  /-- The address that was called. -/
  url : Url
  /-- The value of the header with credentials. -/
  authorization : Option String
  /-- The redirects that were followed. -/
  redirects : Redirects
  /-- Whether the last request arrived. Those before it did, for they were answered. -/
  arrived : Bool
deriving DecidableEq, Repr

namespace Call

/-- The request that is sent to the backend. -/
def first (call : Call) : Outgoing := ⟨call.url, call.authorization⟩

/-- All requests of a call, in order. -/
def requests (call : Call) : List Outgoing :=
  call.first :: call.first.along call.redirects.urls

/-- The requests of a call that arrived. -/
def received (call : Call) : List Outgoing :=
  if call.arrived then call.requests else call.requests.dropLast

/-- Whether the backend saw the call. -/
def seen (call : Call) : Bool := !call.received.isEmpty

/-- The path and query that the backend is asked for. -/
def target (call : Call) : String := call.url.requestTarget

end Call

end ProbeGateway
