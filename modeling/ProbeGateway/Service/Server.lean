import ProbeGateway.Service.Api
import ProbeGateway.Service.Inspection

/-!
# The server

Three tasks make up the server. Two of them serve a listener each: they accept requests and answer
them, until they are told to stop. The main task waits for a signal, or for the task of the public
listener to end; at a signal it tells both tasks over a channel, and then waits for them, one after
the other, until a deadline.

Which of them takes the next step is not decided here. An `Act` is what one of them, the clock or
the system does, and `Server.step` tells what comes of it, if it can take place.
-/

namespace ProbeGateway

/-- The listeners, one for each application. -/
inductive Listener
  | api
  | debug
deriving DecidableEq, Repr

/-- What the service is set up with. -/
structure ServiceSettings where
  api : ApiSettings
  apiHost : SocketAddress
  debugHost : SocketAddress
  /-- Milliseconds that requests in flight get when the service stops. -/
  drainMillis : Nat
deriving DecidableEq, Repr

/-- A request that reaches a listener, with what it meets outside. -/
structure Arrival where
  listener : Listener
  request : Request
  surroundings : Surroundings

/-- A request that was accepted. -/
structure Flight where
  arrival : Arrival
  /-- The time at which its answer is ready, if it ever is, in milliseconds. -/
  readyAt : Option Nat

namespace Service

/-- The application behind a listener. -/
def appAt (settings : ServiceSettings) : Listener → App
  | .api => Api.app settings.api
  | .debug => Inspection.app

/-- Logs the opening of a request. -/
def takeOff (settings : ServiceSettings) (f : Flight) : Action Unit :=
  ((appAt settings f.arrival.listener).opening f.arrival.surroundings f.arrival.request).forM
    Journal.log

/-- Answers a request that was opened. -/
def land (settings : ServiceSettings) (f : Flight) : Action Response :=
  (appAt settings f.arrival.listener).resume f.arrival.surroundings f.arrival.request

end Service

/-! ## Tasks -/

/-- How a task that serves a listener ended. -/
inductive TaskEnd (Fault : Type)
  /-- All that it had to serve is served. -/
  | served
  /-- It could not serve any more. -/
  | failed (fault : Fault)
  /-- It panicked, or was aborted. -/
  | broken (fault : Fault)
deriving DecidableEq, Repr

/-- What a task came to: its fault, if there is one. -/
def TaskEnd.result {Fault : Type} : TaskEnd Fault → Except Fault Unit
  | served => .ok ()
  | failed fault | broken fault => .error fault

/-- A task that serves a listener. -/
inductive Task (Fault : Type)
  | serving
  | ended (e : TaskEnd Fault)
  | aborted
deriving DecidableEq, Repr

/-- Aborts a task, unless it has ended. -/
def Task.abort {Fault : Type} : Task Fault → Task Fault
  | serving => aborted
  | task => task

/-- How many acts are left to a task itself. -/
def Task.rank {Fault : Type} : Task Fault → Nat
  | serving => 1
  | ended _ | aborted => 0

/-- What the main task is at. -/
inductive Phase (Fault : Type)
  /-- It waits for a signal, and for the task of the public listener. -/
  | waiting
  /-- It waits for the task of the public listener. -/
  | drainingApi (deadline : Nat)
  /-- It waits for the task of the debug listener; the other one has ended. -/
  | drainingDebug (api : TaskEnd Fault) (deadline : Nat)
  | returned (result : Except Fault Unit)
deriving Repr

namespace Phase

variable {Fault : Type}

/-- The time until which the main task waits. -/
def deadline? : Phase Fault → Option Nat
  | drainingApi deadline | drainingDebug _ deadline => some deadline
  | waiting | returned _ => none

/-- What the main task returned, if it has returned. -/
def result? : Phase Fault → Option (Except Fault Unit)
  | returned result => some result
  | _ => none

/-- How many acts are left to the main task and the clock, once the server stops. -/
def rank (now : Nat) : Phase Fault → Nat
  | drainingApi deadline => deadline - now + 2
  | drainingDebug _ deadline => deadline - now + 1
  | waiting | returned _ => 0

end Phase

/-! ## The state -/

/-- The server, once its listeners are bound. -/
structure Server (Fault : Type) where
  phase : Phase Fault := .waiting
  tasks : Listener → Task Fault := fun _ => .serving
  /-- What the channel to the tasks holds: whether they are to stop. -/
  told : Bool := false
  /-- The signals that cannot be waited for. -/
  deaf : List Signal := []
  /-- The time, in milliseconds. -/
  now : Nat := 0
  /-- The requests that are accepted and not answered, in the order in which they came. -/
  pending : List Flight := []
  /-- The requests that were answered, in that order, each with its answer. -/
  answered : List (Flight × Response) := []
  journal : Journal

/-- What can happen to a server. -/
inductive Act (Fault : Type)
  /-- A task accepts a request. -/
  | opens (f : Flight)
  /-- One of the pending requests is answered. -/
  | answers (i : Nat)
  /-- A task ends. -/
  | ends (listener : Listener) (e : TaskEnd Fault)
  /-- A signal cannot be waited for. -/
  | deafens (signal : Signal) (reason : String)
  /-- A signal arrives. -/
  | hears (signal : Signal)
  /-- The main task is woken by the end of the task that it waits for. -/
  | wakes
  /-- Time passes. -/
  | elapses (millis : Nat)
  /-- The main task is woken by its deadline. -/
  | timesOut

namespace Server

variable {Fault : Type}

/-- Logs an event. -/
def logs (s : Server Fault) (event : Event) : Server Fault :=
  { s with journal := ((Journal.log event).run s.journal).2 }

/-- Puts a task in place of that of a listener. -/
def setTask (s : Server Fault) (listener : Listener) (task : Task Fault) : Server Fault :=
  { s with tasks := fun l => if l = listener then task else s.tasks l }

/-- Returns from the main task. The event is its last one, and is left out after a fault. -/
def returns (s : Server Fault) (last : Event) : Except Fault Unit → Server Fault
  | .ok () => { s.logs last with phase := .returned (.ok ()) }
  | .error fault => { s with phase := .returned (.error fault) }

/-! ## Steps -/

/-- A task accepts a request. -/
def opens (settings : ServiceSettings) (s : Server Fault) (f : Flight) : Option (Server Fault) :=
  match s.tasks f.arrival.listener with
  | .serving => some { s with
      pending := s.pending ++ [f]
      journal := ((Service.takeOff settings f).run s.journal).2 }
  | _ => none

/-- A pending request is answered. -/
def answers (settings : ServiceSettings) (s : Server Fault) (i : Nat) : Option (Server Fault) :=
  s.pending[i]?.map fun f =>
    let landed := (Service.land settings f).run s.journal
    { s with
      pending := s.pending.eraseIdx i
      answered := s.answered ++ [(f, landed.1)]
      journal := landed.2 }

/-- A task ends. -/
def ends (s : Server Fault) (listener : Listener) (e : TaskEnd Fault) : Option (Server Fault) :=
  match s.tasks listener with
  | .serving => some (s.setTask listener (.ended e))
  | _ => none

/-- The main task fails to set up a signal, and waits for the other one only. -/
def deafens (s : Server Fault) (signal : Signal) (reason : String) : Option (Server Fault) :=
  match s.phase with
  | .waiting => some { s.logs (.signalUnavailable signal reason) with deaf := signal :: s.deaf }
  | _ => none

/-- The main task hears a signal, tells the tasks to stop and sets itself a deadline. -/
def hears (settings : ServiceSettings) (s : Server Fault) (signal : Signal) :
    Option (Server Fault) :=
  match s.phase with
  | .waiting =>
    if signal ∈ s.deaf then none
    else some { (s.logs .signalReceived).logs (.drainStarted (settings.drainMillis / 1000)) with
      told := true
      phase := .drainingApi (s.now + settings.drainMillis) }
  | _ => none

/-- The main task goes on after the task that it waits for. -/
def wakes (s : Server Fault) : Option (Server Fault) :=
  match s.phase, s.tasks .api, s.tasks .debug with
  | .waiting, .ended e, debug => some ((s.setTask .debug debug.abort).returns .leftEarly e.result)
  | .drainingApi deadline, .ended e, _ => some { s with phase := .drainingDebug e deadline }
  | .drainingDebug api _, _, .ended debug =>
    some (s.returns .stopped (api.result.bind fun _ => debug.result))
  | _, _, _ => none

/-- The main task gives up at its deadline, and aborts both tasks. -/
def timesOut (s : Server Fault) : Option (Server Fault) :=
  match s.phase.deadline? with
  | some deadline =>
    if deadline ≤ s.now then
      some ({ s.logs .drainTimedOut with tasks := fun l => (s.tasks l).abort }.returns .stopped
        (.ok ()))
    else none
  | none => none

/-- What comes of an act, if it can take place. Nothing takes place once the main task has
returned. -/
def step (settings : ServiceSettings) (s : Server Fault) (act : Act Fault) :
    Option (Server Fault) :=
  if s.phase.result?.isSome then none
  else match act with
    | .opens f => opens settings s f
    | .answers i => answers settings s i
    | .ends listener e => s.ends listener e
    | .deafens signal reason => s.deafens signal reason
    | .hears signal => hears settings s signal
    | .wakes => s.wakes
    | .elapses millis => some { s with now := s.now + millis }
    | .timesOut => s.timesOut

/-- Lets acts take place, one after the other; those that cannot are passed over. -/
def play (settings : ServiceSettings) (s : Server Fault) (acts : List (Act Fault)) :
    Server Fault :=
  acts.foldl (fun s act => (step settings s act).getD s) s

/-! ## A schedule -/

/-- Whether the answer to a request is ready at a time. -/
def isReady (now : Nat) (f : Flight) : Bool := f.readyAt.any (· ≤ now)

/-- Whether the task of a listener has nothing left to do: it is told to stop, and the requests that
it accepted are answered. -/
def isServed (s : Server Fault) (listener : Listener) : Bool :=
  s.told && (s.tasks listener matches .serving) &&
    s.pending.all fun f => f.arrival.listener ≠ listener

/-- The next time at which an answer is ready, or the deadline is reached. -/
def nextTime (s : Server Fault) (deadline : Nat) : Nat :=
  (s.pending.filterMap (·.readyAt)).foldl min deadline

/-- What happens next in a server that stops, if everything happens as soon as it can. -/
def next? (s : Server Fault) : Option (Act Fault) :=
  match s.pending.findIdx? (isReady s.now) with
  | some i => some (.answers i)
  | none =>
    if s.isServed .api then some (.ends .api .served)
    else if s.isServed .debug then some (.ends .debug .served)
    else if s.wakes.isSome then some .wakes
    else s.phase.deadline?.map fun deadline =>
      if s.now < deadline then .elapses (s.nextTime deadline - s.now) else .timesOut

/-- Lets a number of acts happen, each as soon as it can. -/
def drain (settings : ServiceSettings) : Nat → Server Fault → Server Fault
  | 0, s => s
  | n + 1, s =>
    match s.next?.bind (step settings s) with
    | some s' => drain settings n s'
    | none => s

/-! ## What is left to do -/

/-- How many acts can take place in a server that stops. -/
def rank (s : Server Fault) : Nat :=
  s.phase.rank s.now + s.pending.length + (s.tasks .api).rank + (s.tasks .debug).rank

end Server

end ProbeGateway
