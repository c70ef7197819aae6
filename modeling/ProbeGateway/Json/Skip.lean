import ProbeGateway.Json.Reader

/-!
# Skipping a value

A value that nobody asked for is passed over without being built. Its brackets are tracked on a
list, so it may nest to any depth; its strings are checked for control characters and for the form
of their escapes, and not for being Unicode.
-/

namespace ProbeGateway.Json

/-- A bracket that is still open. -/
inductive Bracket
  | array
  | object
deriving DecidableEq, Repr

/-- The cause when a text ends inside a bracket. -/
def Bracket.endCause : Bracket → Cause
  | array => .endOfArray
  | object => .endOfObject

/-- The cause when something else than a comma or the closing bracket follows a value. -/
def Bracket.commaCause : Bracket → Cause
  | array => .arrayCommaExpected
  | object => .objectCommaExpected

/-- The octet that closes a bracket. -/
def Bracket.close : Bracket → UInt8
  | array => 0x5D
  | object => 0x7D

/-- Passes over what follows a backslash. -/
def skipEscape : Bytes → Except Fault Bytes
  | [] => failHere .endOfString []
  | b :: rest =>
    if b = 0x22 ∨ b = 0x5C ∨ b = 0x2F ∨ b = 0x62 ∨ b = 0x66 ∨ b = 0x6E ∨ b = 0x72 ∨ b = 0x74 then
      .ok rest
    else if b = 0x75 then do
      let (_, rest) ← readHex4 rest
      .ok rest
    else failHere .badEscape rest

/-- Passes over a string, from behind its opening quote. -/
def skipString : (fuel : Nat) → Bytes → Except Fault Bytes
  | 0, input => failHere .endOfString input
  | _ + 1, [] => failHere .endOfString []
  | fuel + 1, b :: rest =>
    if b = 0x22 then .ok rest
    else if b = 0x5C then do
      let rest ← skipEscape rest
      skipString fuel rest
    else if b < 0x20 then failHere .controlCharacter (b :: rest)
    else skipString fuel rest

/-- Passes over the digits of an exponent. -/
def skipExponent (input : Bytes) : Except Fault Bytes :=
  let input := match input with
    | 0x2B :: r => r
    | 0x2D :: r => r
    | r => r
  match input with
  | [] => failHere .badNumber []
  | b :: rest =>
    if isDigitOctet b then .ok (rest.dropWhile isDigitOctet) else failHere .badNumber rest

/-- Passes over what follows the digits behind a point. -/
def skipFractionTail : Bytes → Except Fault Bytes
  | [] => .ok []
  | b :: rest => if isExponentMark b then skipExponent rest else .ok (b :: rest)

/-- Passes over what follows the whole digits of a number. -/
def skipNumberTail : Bytes → Except Fault Bytes
  | [] => .ok []
  | b :: rest =>
    if b = 0x2E then
      match rest with
      | [] => failHere .badNumber []
      | c :: after =>
        if isDigitOctet c then skipFractionTail (after.dropWhile isDigitOctet)
        else failAtNext .badNumber (c :: after)
    else if isExponentMark b then skipExponent rest
    else .ok (b :: rest)

/-- Passes over a number, from behind its sign. -/
def skipNumber : Bytes → Except Fault Bytes
  | [] => failHere .badNumber []
  | b :: rest =>
    if b = 0x30 then
      match rest with
      | c :: r => if isDigitOctet c then failAtNext .badNumber (c :: r) else skipNumberTail rest
      | [] => .ok []
    else if isDigitOctet b then skipNumberTail (rest.dropWhile isDigitOctet)
    else failHere .badNumber rest

/-- Passes over a key and its colon, where the opening quote is expected. -/
def skipKey (input : Bytes) : Except Fault Bytes :=
  match skipSpace input with
  | [] => failHere .endOfObject []
  | b :: rest =>
    if b = 0x22 then do
      let rest ← skipString (rest.length + 1) rest
      readColon rest
    else failAtNext .keyNotText (b :: rest)

/-- Passes over what stands before a value inside the given bracket: in an object, its key. -/
def skipToItem : Bracket → Bytes → Except Fault Bytes
  | .array, input => .ok input
  | .object, input => skipKey input

mutual

/-- Passes over a value inside the given brackets, and over the rest of them. -/
def skipFrom : (fuel : Nat) → (opened : List Bracket) → Bytes → Except Fault Bytes
  | 0, _, input => failHere .endOfValue input
  | fuel + 1, opened, input =>
    match skipSpace input with
    | [] => failHere .endOfValue []
    | b :: rest =>
      if b = 0x6E then do skipRest fuel true opened (← readWord (octets "ull") rest)
      else if b = 0x74 then do skipRest fuel true opened (← readWord (octets "rue") rest)
      else if b = 0x66 then do skipRest fuel true opened (← readWord (octets "alse") rest)
      else if b = 0x2D then do skipRest fuel true opened (← skipNumber rest)
      else if isDigitOctet b then do skipRest fuel true opened (← skipNumber (b :: rest))
      else if b = 0x22 then do
        skipRest fuel true opened (← skipString (rest.length + 1) rest)
      else if b = 0x5B then skipRest fuel false (.array :: opened) rest
      else if b = 0x7B then skipRest fuel false (.object :: opened) rest
      else failAtNext .valueExpected (b :: rest)

/-- Passes over the rest of the given brackets; a comma may stand first if a value stands before. -/
def skipRest : (fuel : Nat) → (afterValue : Bool) → (opened : List Bracket) → Bytes →
    Except Fault Bytes
  | 0, _, _, input => failHere .endOfValue input
  | _ + 1, _, [], input => .ok input
  | fuel + 1, afterValue, bracket :: outer, input =>
    match skipSpace input with
    | [] => failHere bracket.endCause []
    | b :: rest =>
      if afterValue && b == 0x2C then do
        skipFrom fuel (bracket :: outer) (← skipToItem bracket rest)
      else if b = bracket.close then skipRest fuel true outer rest
      else if afterValue then failAtNext bracket.commaCause (b :: rest)
      else do skipFrom fuel (bracket :: outer) (← skipToItem bracket (b :: rest))

end

/-- Passes over one value. -/
def skipValue (input : Bytes) : Except Fault Bytes := skipFrom (2 * input.length + 2) [] input

end ProbeGateway.Json
