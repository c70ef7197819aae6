import ProbeGateway.Number.Numeral
import ProbeGateway.Text.Percent

/-!
# Parameters of a profile

A profile of the process is asked for by a form: how many seconds it takes, and its format. Names
that mean nothing are passed over, a name that means something may stand once. The pairs are read in
order, and the first that is refused is reported.
-/

namespace ProbeGateway

/-- How a profile is written. -/
inductive ProfileFormat
  | protobuf
  | flamegraph
deriving DecidableEq, Repr

namespace ProfileFormat

/-- The name of a format, as the log has it. -/
def name : ProfileFormat → String
  | protobuf => "Protobuf"
  | flamegraph => "Flamegraph"

/-- The word that asks for a format. -/
def word : ProfileFormat → String
  | protobuf => "protobuf"
  | flamegraph => "flamegraph"

/-- The media type of a profile. -/
def mediaType : ProfileFormat → String
  | protobuf => "application/octet-stream"
  | flamegraph => "image/svg+xml"

/-- The format that a word asks for. -/
def ofWord? (s : String) : Option ProfileFormat := [protobuf, flamegraph].find? (·.word = s)

end ProfileFormat

/-- What a profile is asked for with. -/
structure ProfileParams where
  seconds : Nat
  format : ProfileFormat
deriving DecidableEq, Repr

/-- Why a form is refused. -/
inductive ProfileFault
  /-- A name stands twice. -/
  | repeated (name : String)
  | notCount (fault : CountFault)
  | unknownFormat (word : String)
deriving DecidableEq, Repr

/-- The wording of a refusal. -/
def ProfileFault.message : ProfileFault → String
  | repeated name => "duplicate field `" ++ name ++ "`"
  | notCount fault => fault.message
  | unknownFormat word =>
    "unknown variant `" ++ word ++ "`, expected `protobuf` or `flamegraph`"

namespace ProfileParams

/-- Parameters that are still being read. -/
structure Draft where
  seconds : Option Nat := none
  format : Option ProfileFormat := none
deriving DecidableEq, Repr

/-- Reads the number of seconds. -/
def Draft.readSeconds (d : Draft) (value : String) : Except ProfileFault Draft :=
  if d.seconds.isSome then .error (.repeated "seconds")
  else match readCount wordLimit value with
    | .ok n => .ok { d with seconds := some n }
    | .error fault => .error (.notCount fault)

/-- Reads the format. -/
def Draft.readFormat (d : Draft) (value : String) : Except ProfileFault Draft :=
  if d.format.isSome then .error (.repeated "format")
  else match ProfileFormat.ofWord? value with
    | some f => .ok { d with format := some f }
    | none => .error (.unknownFormat value)

/-- Reads a pair of the form. -/
def Draft.read (d : Draft) (pair : String × String) : Except ProfileFault Draft :=
  if pair.1 = "seconds" then d.readSeconds pair.2
  else if pair.1 = "format" then d.readFormat pair.2
  else .ok d

/-- Reads the pairs of the form, in order. -/
def Draft.readAll : Draft → List (String × String) → Except ProfileFault Draft
  | d, [] => .ok d
  | d, pair :: rest =>
    match d.read pair with
    | .ok d => d.readAll rest
    | .error fault => .error fault

/-- Fills in thirty seconds and the first format where nothing is said. -/
def Draft.finish (d : Draft) : ProfileParams :=
  ⟨d.seconds.getD 30, d.format.getD .protobuf⟩

/-- The parameters in the query of a request. -/
def ofQuery (query : String) : Except ProfileFault ProfileParams :=
  (Draft.readAll {} (Percent.formDecode (octets query))).map Draft.finish

/-- The most seconds that a profile may take. -/
def maxSeconds : Nat := 300

/-- Whether a profile may take as long as it is asked to. -/
def inRange (p : ProfileParams) : Bool := 1 ≤ p.seconds && p.seconds ≤ maxSeconds

example : (ofQuery "x&format=fl%61megraph&seconds=%2B7").toOption = some ⟨7, .flamegraph⟩ := by
  decide +kernel

end ProfileParams

end ProbeGateway
