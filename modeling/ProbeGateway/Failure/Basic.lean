import ProbeGateway.Failure.Kind
import ProbeGateway.Json.Writer

/-!
# Failures

A failure is a kind and a message. The place where it was raised goes with it for the log, and has
no part in what a client gets.
-/

namespace ProbeGateway

/-- A failure of a request, a store or a backend. -/
structure Failure where
  kind : ErrorKind
  /-- What a client is told. -/
  message : String
  /-- Where the failure was raised. -/
  site : String := ""
deriving DecidableEq, Repr

namespace Failure

/-- The client asked for something that makes no sense. -/
def invalidArgument (message : String) : Failure := ⟨.invalidArgument, message, ""⟩

/-- The thing asked for does not exist. -/
def notFound (message : String) : Failure := ⟨.notFound, message, ""⟩

/-- Something needed cannot be reached. -/
def unavailable (message : String) : Failure := ⟨.unavailable, message, ""⟩

/-- Something went wrong inside. -/
def internal (message : String) : Failure := ⟨.internal, message, ""⟩

/-- The kind and the message in one text. -/
def describe (e : Failure) : String := e.kind.name ++ ": " ++ e.message

/-- What a client gets as JSON. -/
def json (e : Failure) : Json := .object [("code", .nat e.kind.code), ("message", .text e.message)]

end Failure

end ProbeGateway
