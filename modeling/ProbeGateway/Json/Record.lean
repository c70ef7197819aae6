import ProbeGateway.Json.Skip
import ProbeGateway.Text.Quoted

/-!
# Reading values of known shape

Readers for strings, counts, optional values, lists, maps of strings, enumerations and records. A
value of another kind is refused with the kind found and the kind expected, just behind a scalar
and just before a bracket. A record is an object, whose unknown keys are skipped, or an array of its
fields by position.
-/

namespace ProbeGateway.Json

/-! ## Values of another kind -/

/-- How a number is named in a refusal. -/
def describeNumber : JsonNumber → String
  | .integer n => "integer `" ++ String.ofList (signedDigits n) ++ "`"
  | .real x => "floating point `" ++ NumberStyle.json.text x ++ "`"

/-- Refuses the value at the front because another kind is expected. -/
def mismatch {α : Type} (expected : String) : Bytes → Except Fault α
  | [] => failHere .valueExpected []
  | b :: rest =>
    let wrong {β : Type} (found : String) (rest : Bytes) : Except Fault β :=
      failHere (.wrongType found expected) rest
    if b = 0x6E then do wrong "null" (← readWord (octets "ull") rest)
    else if b = 0x74 then do wrong "boolean `true`" (← readWord (octets "rue") rest)
    else if b = 0x66 then do wrong "boolean `false`" (← readWord (octets "alse") rest)
    else if b = 0x2D then do
      let (n, rest) ← readNumber true rest
      wrong (describeNumber n) rest
    else if isDigitOctet b then do
      let (n, rest) ← readNumber false (b :: rest)
      wrong (describeNumber n) rest
    else if b = 0x22 then do
      let (s, rest) ← readString rest
      wrong ("string " ++ Quoted.quote s) rest
    else if b = 0x5B then wrong "sequence" (b :: rest)
    else if b = 0x7B then wrong "map" (b :: rest)
    else failAtNext .valueExpected (b :: rest)

/-! ## Scalars -/

/-- Reads a string and hands it, with the octets behind it, to a function. -/
def readTextWith {α : Type} (expected : String) (use : String → Reader α) : Reader α :=
  fun input =>
    match skipSpace input with
    | [] => failHere .endOfValue []
    | b :: rest =>
      if b = 0x22 then do
        let (s, rest) ← readString rest
        use s rest
      else mismatch expected (b :: rest)

/-- Reads a string. -/
def readText : Reader String := readTextWith "a string" fun s rest => .ok (s, rest)

/-- The name of the kind that counts have in refusals. -/
def countKind : String := "usize"

/-- A number as a count. -/
def countOf (n : JsonNumber) (rest : Bytes) : Except Fault (Nat × Bytes) :=
  match n with
  | .integer value =>
    if 0 ≤ value then .ok (value.toNat, rest)
    else failHere (.wrongValue (describeNumber n) countKind) rest
  | .real _ => failHere (.wrongType (describeNumber n) countKind) rest

/-- Reads a count: an integer that is not negative. -/
def readCountNumber : Reader Nat := fun input =>
  match skipSpace input with
  | [] => failHere .endOfValue []
  | b :: rest =>
    if b = 0x2D then do
      let (n, rest) ← readNumber true rest
      countOf n rest
    else if isDigitOctet b then do
      let (n, rest) ← readNumber false (b :: rest)
      countOf n rest
    else mismatch countKind (b :: rest)

/-- Reads `null` as nothing, and any other value by the given reader. -/
def readOptional {α : Type} (reader : Reader α) : Reader (Option α) := fun input =>
  match skipSpace input with
  | 0x6E :: rest => do .ok (none, ← readWord (octets "ull") rest)
  | _ => do
    let (x, rest) ← reader input
    .ok (some x, rest)

/-- Reads `null`. -/
def readNull (input : Bytes) : Except Fault Bytes :=
  match skipSpace input with
  | [] => failHere .endOfValue []
  | b :: rest =>
    if b = 0x6E then readWord (octets "ull") rest else mismatch "unit" (b :: rest)

/-! ## Enumerations -/

/-- Reads the name of a case. -/
def readCaseName {α : Type} (cases : List (String × α)) : Reader α :=
  readTextWith "variant identifier" fun name rest =>
    match Sorted.find? name cases with
    | some x => .ok (x, rest)
    | none => failHere (.unknownVariant name (cases.map (·.1))) rest

/-- Reads a case without content: its name, or an object with its name over `null`. -/
def readCase {α : Type} (levels : Nat) (cases : List (String × α)) : Reader α := fun input =>
  match skipSpace input with
  | [] => failHere .endOfValue []
  | b :: rest =>
    if b = 0x22 then readCaseName cases (b :: rest)
    else if b = 0x7B then
      if levels = 0 then failHere .tooDeep rest
      else do
        let (x, rest) ← readCaseName cases rest
        let rest ← readColon rest
        let rest ← readNull rest
        match skipSpace rest with
        | [] => failHere .endOfObject []
        | c :: rest => if c = 0x7D then .ok (x, rest) else failHere .valueExpected (c :: rest)
    else failAtNext .valueExpected (b :: rest)

/-! ## Lists and maps -/

/-- Reads an array of values of one kind. -/
def readList {α : Type} (levels : Nat) (item : (levels : Nat) → Reader α) : Reader (List α) :=
  fun input =>
    match skipSpace input with
    | [] => failHere .endOfValue []
    | b :: rest =>
      if b = 0x5B then
        match levels with
        | 0 => failHere .tooDeep rest
        | levels + 1 => readItems (item levels) (rest.length + 1) true rest
      else mismatch "a sequence" (b :: rest)

/-- Reads a member of a map of strings. -/
def readTextMember (key : String) (entries : Sorted String String) :
    Reader (Sorted String String) := fun input => do
  let rest ← readColon input
  let (value, rest) ← readText rest
  .ok (Sorted.insert key value entries, rest)

/-- Reads an object whose values are strings. -/
def readTextMap (levels : Nat) : Reader (Sorted String String) := fun input =>
  match skipSpace input with
  | [] => failHere .endOfValue []
  | b :: rest =>
    if b = 0x7B then
      if levels = 0 then failHere .tooDeep rest
      else readMembers readTextMember (rest.length + 1) true [] rest
    else mismatch "a map" (b :: rest)

/-! ## Records -/

/-- A field of a record that is being filled. -/
structure Field (σ : Type) where
  name : String
  /-- Whether the field has its value. -/
  given : σ → Bool
  /-- Reads the value and puts it in. -/
  read : Reader (σ → σ)
  /-- Whether the record is complete without the field. -/
  optional : Bool

/-- A field that puts what a reader reads into a draft. -/
def Field.of {σ α : Type} (name : String) (given : σ → Bool) (reader : Reader α)
    (put : α → σ → σ) (optional : Bool) : Field σ where
  name := name
  given := given
  read := fun input => do
    let (x, rest) ← reader input
    .ok (put x, rest)
  optional := optional

/-- The octets behind the brace that may close an object here. -/
def pastBrace (input : Bytes) : Bytes :=
  match skipSpace input with
  | 0x7D :: rest => rest
  | rest => rest

/-- Reads the member of a record under a key. -/
def readField {σ : Type} (fields : List (Field σ)) (key : String) (state : σ) : Reader σ :=
  fun input =>
    match fields.find? (·.name = key) with
    | none => do
      let rest ← readColon input
      let rest ← skipValue rest
      .ok (state, rest)
    | some field =>
      if field.given state then failHere (.duplicateField key) (pastBrace input)
      else do
        let rest ← readColon input
        let (put, rest) ← field.read rest
        .ok (put state, rest)

/-- Reads the end of an array whose elements have all been taken. -/
def readArrayEnd (input : Bytes) : Except Fault Bytes :=
  match skipSpace input with
  | [] => failHere .endOfArray []
  | b :: rest =>
    if b = 0x5D then .ok rest
    else if b = 0x2C then
      match skipSpace rest with
      | 0x5D :: r => failAtNext .trailingComma (0x5D :: r)
      | r => failAtNext .trailingCharacters r
    else failAtNext .trailingCharacters (b :: rest)

/-- Reads the elements of an array as the fields of a record, by position. -/
def readPositional {σ : Type} (expected : String) :
    List (Field σ) → (index : Nat) → σ → Reader σ
  | [], _, state, input => do .ok (state, ← readArrayEnd input)
  | field :: fields, index, state, input =>
    match skipSpace input with
    | [] => failHere .endOfArray []
    | b :: rest =>
      if b = 0x5D then
        if field.optional then readPositional expected fields (index + 1) state (b :: rest)
        else failHere (.wrongLength index expected) rest
      else if index = 0 then do
        let (put, rest) ← field.read (b :: rest)
        readPositional expected fields (index + 1) (put state) rest
      else if b = 0x2C then
        match skipSpace rest with
        | [] => failHere .endOfValue []
        | c :: rest =>
          if c = 0x5D then failAtNext .trailingComma (c :: rest)
          else do
            let (put, rest) ← field.read (c :: rest)
            readPositional expected fields (index + 1) (put state) rest
      else failAtNext .arrayCommaExpected (b :: rest)

/-- How a record is named in a refusal. -/
def recordKind (name : String) : String := "struct " ++ name

/-- How a record of so many fields is named in a refusal of an array. -/
def recordLength (name : String) (count : Nat) : String :=
  recordKind name ++ " with " ++ decimal count ++ (if count = 1 then " element" else " elements")

/-- Reads a record: an object or an array. The fields are given for each number of levels. -/
def readRecord {σ : Type} (levels : Nat) (name : String) (fields : (levels : Nat) → List (Field σ))
    (empty : σ) : Reader σ := fun input =>
  match skipSpace input with
  | [] => failHere .endOfValue []
  | b :: rest =>
    if b = 0x5B then
      match levels with
      | 0 => failHere .tooDeep rest
      | levels + 1 =>
        let fields := fields levels
        readPositional (recordLength name fields.length) fields 0 empty rest
    else if b = 0x7B then
      match levels with
      | 0 => failHere .tooDeep rest
      | levels + 1 => do
        let fields := fields levels
        let (state, rest) ← readMembers (readField fields) (rest.length + 1) true empty rest
        match fields.find? fun field => !field.optional && !field.given state with
        | some field => failHere (.missingField field.name) rest
        | none => .ok (state, rest)
    else mismatch (recordKind name) (b :: rest)

/-- Turns what a record reader filled into the record. -/
def Reader.complete {σ α : Type} (reader : Reader σ) (finish : σ → Option α) : Reader α :=
  fun input => do
    let (state, rest) ← reader input
    match finish state with
    | some x => .ok (x, rest)
    | none => failHere .valueExpected rest

end ProbeGateway.Json
