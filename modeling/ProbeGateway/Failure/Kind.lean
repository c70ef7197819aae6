/-!
# Kinds of failure

Every failure has one of seventeen kinds. The kind fixes a number on the wire, from one up, and an
HTTP status. `internalOnly` marks a failure whose details are for the log: a client sees it as
`internal`.
-/

namespace ProbeGateway

/-- What sort of failure happened. -/
inductive ErrorKind
  | canceled
  | unknown
  | invalidArgument
  | deadlineExceeded
  | notFound
  | alreadyExists
  | permissionDenied
  | unauthenticated
  | resourceExhausted
  | failedPrecondition
  | aborted
  | outOfRange
  | unimplemented
  | internal
  | unavailable
  | dataLoss
  | internalOnly
deriving DecidableEq, Repr

namespace ErrorKind

/-- The name of a kind, as logs and metrics have it. -/
def name : ErrorKind → String
  | canceled => "Canceled"
  | unknown => "Unknown"
  | invalidArgument => "InvalidArgument"
  | deadlineExceeded => "DeadlineExceeded"
  | notFound => "NotFound"
  | alreadyExists => "AlreadyExists"
  | permissionDenied => "PermissionDenied"
  | unauthenticated => "Unauthenticated"
  | resourceExhausted => "ResourceExhausted"
  | failedPrecondition => "FailedPrecondition"
  | aborted => "Aborted"
  | outOfRange => "OutOfRange"
  | unimplemented => "Unimplemented"
  | internal => "Internal"
  | unavailable => "Unavailable"
  | dataLoss => "DataLoss"
  | internalOnly => "InternalOnly"

/-- All kinds, in the order of their codes. -/
def all : List ErrorKind :=
  [canceled, unknown, invalidArgument, deadlineExceeded, notFound, alreadyExists, permissionDenied,
    unauthenticated, resourceExhausted, failedPrecondition, aborted, outOfRange, unimplemented,
    internal, unavailable, dataLoss, internalOnly]

/-- The number of a kind on the wire; zero would be success. -/
def code : ErrorKind → Nat
  | canceled => 1
  | unknown => 2
  | invalidArgument => 3
  | deadlineExceeded => 4
  | notFound => 5
  | alreadyExists => 6
  | permissionDenied => 7
  | unauthenticated => 8
  | resourceExhausted => 9
  | failedPrecondition => 10
  | aborted => 11
  | outOfRange => 12
  | unimplemented => 13
  | internal => 14
  | unavailable => 15
  | dataLoss => 16
  | internalOnly => 17

/-- The kind that a client sees. -/
def clientFacing : ErrorKind → ErrorKind
  | internalOnly => internal
  | kind => kind

/-- The HTTP status of a kind. -/
def httpStatus : ErrorKind → Nat
  | canceled => 408
  | unknown => 500
  | invalidArgument => 400
  | deadlineExceeded => 504
  | notFound => 404
  | alreadyExists => 409
  | permissionDenied => 403
  | unauthenticated => 401
  | resourceExhausted => 429
  | failedPrecondition => 400
  | aborted => 409
  | outOfRange => 400
  | unimplemented => 501
  | internal => 500
  | unavailable => 503
  | dataLoss => 500
  | internalOnly => 500

/-- The kind closest to a status that no structured failure came with. -/
def ofStatus (status : Nat) : ErrorKind :=
  match status with
  | 400 | 413 | 415 | 422 => invalidArgument
  | 401 => unauthenticated
  | 403 => permissionDenied
  | 404 => notFound
  | 405 | 501 => unimplemented
  | 408 => canceled
  | 409 => aborted
  | 429 => resourceExhausted
  | 503 => unavailable
  | 504 => deadlineExceeded
  | _ =>
    if 400 ≤ status ∧ status < 500 then invalidArgument
    else if 500 ≤ status ∧ status < 600 then internal
    else unknown

/-- The kind with a given name. -/
def ofName? (s : String) : Option ErrorKind := all.find? (·.name = s)

theorem mem_all (k : ErrorKind) : k ∈ all := by cases k <;> decide

theorem ofName?_name (k : ErrorKind) : ofName? k.name = some k := by cases k <;> decide

/-- Kinds have different codes. -/
theorem code_injective {j k : ErrorKind} (h : j.code = k.code) : j = k := by
  cases j <;> cases k <;> first | rfl | exact absurd h (by decide)

theorem clientFacing_ne_internalOnly (k : ErrorKind) : k.clientFacing ≠ internalOnly := by
  cases k <;> decide

end ErrorKind

end ProbeGateway
