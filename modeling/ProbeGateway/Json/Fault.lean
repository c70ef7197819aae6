import ProbeGateway.Json.Writer
import ProbeGateway.Number.Numeral

/-!
# Why a JSON text is refused

A refusal has a cause and a place. The place is kept as the number of octets still unread, and is
turned into a line and a column once, against the whole text.
-/

namespace ProbeGateway.Json

/-- What is wrong with a text. -/
inductive Cause
  | endOfValue
  | endOfArray
  | endOfObject
  | endOfString
  | colonExpected
  | arrayCommaExpected
  | objectCommaExpected
  | wordExpected
  | valueExpected
  | badEscape
  | badNumber
  | numberTooLarge
  | notUnicode
  | controlCharacter
  | keyNotText
  | loneSurrogate
  | unpairedSurrogate
  | trailingComma
  | trailingCharacters
  | tooDeep
  /-- A value of another kind than the expected one. -/
  | wrongType (found expected : String)
  /-- A value of the expected kind and outside its range. -/
  | wrongValue (found expected : String)
  /-- An array with too few elements for a record. -/
  | wrongLength (length : Nat) (expected : String)
  | missingField (name : String)
  | duplicateField (name : String)
  | unknownVariant (name : String) (allowed : List String)
  /-- A text that its own reader refuses, with that reader's words. -/
  | refused (message : String)
deriving DecidableEq, Repr

/-- Names in backquotes, as an alternative: two with `or` between them, more after `one of`. -/
def alternatives : List String → String
  | [a, b] => "`" ++ a ++ "` or `" ++ b ++ "`"
  | names => "one of " ++ String.intercalate ", " (names.map fun n => "`" ++ n ++ "`")

/-- The wording of a cause. -/
def Cause.message : Cause → String
  | endOfValue => "EOF while parsing a value"
  | endOfArray => "EOF while parsing a list"
  | endOfObject => "EOF while parsing an object"
  | endOfString => "EOF while parsing a string"
  | colonExpected => "expected `:`"
  | arrayCommaExpected => "expected `,` or `]`"
  | objectCommaExpected => "expected `,` or `\x7d`"
  | wordExpected => "expected ident"
  | valueExpected => "expected value"
  | badEscape => "invalid escape"
  | badNumber => "invalid number"
  | numberTooLarge => "number out of range"
  | notUnicode => "invalid unicode code point"
  | controlCharacter => "control character (\\u0000-\\u001F) found while parsing a string"
  | keyNotText => "key must be a string"
  | loneSurrogate => "lone leading surrogate in hex escape"
  | unpairedSurrogate => "unexpected end of hex escape"
  | trailingComma => "trailing comma"
  | trailingCharacters => "trailing characters"
  | tooDeep => "recursion limit exceeded"
  | wrongType found expected => "invalid type: " ++ found ++ ", expected " ++ expected
  | wrongValue found expected => "invalid value: " ++ found ++ ", expected " ++ expected
  | wrongLength length expected => "invalid length " ++ decimal length ++ ", expected " ++ expected
  | missingField name => "missing field `" ++ name ++ "`"
  | duplicateField name => "duplicate field `" ++ name ++ "`"
  | unknownVariant name allowed =>
    "unknown variant `" ++ name ++ "`, expected " ++ alternatives allowed
  | refused message => message

/-- A cause, and how many octets were unread where it was found. -/
structure Fault where
  cause : Cause
  unread : Nat
deriving DecidableEq, Repr

/-- A reader takes a value off the front of some octets. -/
abbrev Reader (α : Type) := Bytes → Except Fault (α × Bytes)

/-- Refuses at the front of the unread octets. -/
def failHere {α : Type} (cause : Cause) (unread : Bytes) : Except Fault α :=
  .error ⟨cause, unread.length⟩

/-- Refuses the first unread octet, so the place is just after it. -/
def failAtNext {α : Type} (cause : Cause) (unread : Bytes) : Except Fault α :=
  .error ⟨cause, unread.length - 1⟩

/-! ## Places -/

/-- A refusal with its place: lines count from one, columns are octets since the line began. -/
structure Refusal where
  cause : Cause
  line : Nat
  column : Nat
deriving DecidableEq, Repr

/-- The line and column after some octets. -/
def placeAfter (read : Bytes) : Nat × Nat :=
  read.foldl (fun place (b : UInt8) =>
    if b = 0x0A then (place.1 + 1, 0) else (place.1, place.2 + 1)) (1, 0)

/-- The place of a fault in the whole text. -/
def Fault.locate (input : Bytes) (fault : Fault) : Refusal :=
  let (line, column) := placeAfter (input.take (input.length - fault.unread))
  ⟨fault.cause, line, column⟩

/-- A wording followed by a place. -/
def placed (message : String) (line column : Nat) : String :=
  message ++ " at line " ++ decimal line ++ " column " ++ decimal column

/-- The text behind a given beginning, if it begins so. -/
def behind? : (beginning s : List Char) → Option (List Char)
  | [], s => some s
  | _ :: _, [] => none
  | b :: beginning, c :: s => if b = c then behind? beginning s else none

/-- The line and column of a text that is nothing but a place. -/
def place? (s : List Char) : Option (Nat × Nat) := do
  let rest ← behind? " at line ".toList s
  let line := rest.takeWhile isDigit
  let rest ← behind? " column ".toList (rest.dropWhile isDigit)
  let line ← (readCount wordLimit (String.ofList line)).toOption
  let column ←
    if rest.all isDigit then (readCount wordLimit (String.ofList rest)).toOption else none
  some (line, column)

/-- Cuts a text before the place at its end, if it ends in one. -/
def splitPlace? : List Char → Option (List Char × Nat × Nat)
  | [] => none
  | c :: rest =>
    match splitPlace? rest with
    | some (before, place) => some (c :: before, place)
    | none => (place? (c :: rest)).map fun place => ([], place)

/-- A wording that ends in a place, with the numbers of the place in their plain form; a place on
line zero is no place, and is dropped. -/
def settlePlace (message : String) : String :=
  match splitPlace? message.toList with
  | some (before, line, column) =>
    if line = 0 then String.ofList before else placed (String.ofList before) line column
  | none => message

example : settlePlace "bad at line 007 column 2" = "bad at line 7 column 2" := by decide +kernel
example : settlePlace "bad at line 0 column 2" = "bad" := by decide +kernel

/-- The wording of a refusal. -/
def Refusal.message (r : Refusal) : String := placed r.cause.message r.line r.column

end ProbeGateway.Json
