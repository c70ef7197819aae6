import ProbeGateway.Service.Server

/-!
# The life of the service

The service binds a listener for each of its two applications, and then the server is at work until
it is told to stop. If a listener cannot be bound, it serves nothing. A life from its start to its
end is given by what happens outside: the requests, and when those that are still in flight at the
stop would be finished. Everything in it happens as soon as it can.
-/

namespace ProbeGateway

/-- Why an address cannot be bound, in the words of the operating system. -/
structure BindFault where
  code : Nat
  kind : String
  reason : String
deriving DecidableEq, Repr

namespace BindFault

/-- The wording of a fault. -/
def message (fault : BindFault) : String :=
  fault.reason ++ " (os error " ++ decimal fault.code ++ ")"

/-- A fault with its parts named. -/
def debugText (fault : BindFault) : String :=
  "Os \x7b code: " ++ decimal fault.code ++ ", kind: " ++ fault.kind ++ ", message: " ++
    Quoted.quote fault.reason ++ " \x7d"

/-- Another process has the address. -/
def addressInUse : BindFault := ⟨98, "AddrInUse", "Address already in use"⟩

end BindFault

/-- The settings of the service in a configuration. -/
def Config.service (config : Config) : ServiceSettings :=
  ⟨config.api, config.apiHost, config.debugHost, config.shutdownTimeout * 1000⟩

/-- What the service meets from its start to its end. -/
structure Circumstances where
  /-- Why an address cannot be bound, if it cannot. -/
  bindFault? : SocketAddress → Option BindFault
  /-- The requests that are answered before it is told to stop. -/
  arrivals : List Arrival
  /-- The requests that are in flight when it is told to stop, with times that are counted from
  then. -/
  flights : List Flight

/-- How the life of the service went. -/
structure Ending where
  result : Except BindFault Unit
  /-- The answers to the requests before the stop, in order. -/
  answers : List Response
  /-- The answers to the requests in flight that were finished in time, in the order in which they
  were ready. -/
  drained : List Response

namespace Service

/-! ## Starting -/

/-- Warns if there is no backend to ask for alert rules. -/
def warnMissing (settings : ServiceSettings) : Action Unit :=
  if settings.api.rules.url.isNone then Journal.log .rulesUrlMissing else pure ()

/-- What is wrong with the first listener that cannot be bound. The second one cannot have an
address that collides with the first. -/
def firstFault? (settings : ServiceSettings) (bindFault? : SocketAddress → Option BindFault) :
    Option BindFault :=
  ((bindFault? settings.apiHost).or (bindFault? settings.debugHost)).or <|
    if settings.apiHost.collides settings.debugHost then some .addressInUse else none

/-- Binds both listeners, and only then tells of them. -/
def start (settings : ServiceSettings) (bindFault? : SocketAddress → Option BindFault) :
    Action (Except BindFault Unit) := do
  warnMissing settings
  match firstFault? settings bindFault? with
  | some fault => return .error fault
  | none =>
    Journal.log (.apiListening settings.apiHost.text)
    Journal.log (.debugListening settings.debugHost.text)
    return .ok ()

/-! ## The server in given circumstances -/

/-- A request that is answered at once. -/
def Arrival.acts (a : Arrival) : List (Act BindFault) := [.opens ⟨a, some 0⟩, .answers 0]

/-- What happens up to the signal to stop. -/
def schedule (arrivals : List Arrival) (flights : List Flight) : List (Act BindFault) :=
  arrivals.flatMap Arrival.acts ++ flights.map .opens ++ [.hears .terminate]

/-- The server behind bound listeners after a signal, and after all that is left to do then. -/
def serve (settings : ServiceSettings) (arrivals : List Arrival) (flights : List Flight)
    (j : Journal) : Server BindFault :=
  let told := Server.play settings { journal := j } (schedule arrivals flights)
  Server.drain settings told.rank told

/-- Works behind bound listeners until the end. -/
def work (settings : ServiceSettings) (arrivals : List Arrival) (flights : List Flight) :
    Action Ending := fun j =>
  let last := serve settings arrivals flights j
  let responses := last.answered.map (·.2)
  -- the server has returned, for it has taken all the acts that were left to it
  (⟨last.phase.result?.getD (.ok ()), responses.take arrivals.length,
    responses.drop arrivals.length⟩, last.journal)

/-- The whole life of the service. -/
def run (settings : ServiceSettings) (c : Circumstances) : Action Ending := do
  match ← start settings c.bindFault? with
  | .error fault => return ⟨.error fault, [], []⟩
  | .ok () => work settings c.arrivals c.flights

end Service

end ProbeGateway
