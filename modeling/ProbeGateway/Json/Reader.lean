import ProbeGateway.Json.Fault
import ProbeGateway.Number.Numeral
import ProbeGateway.Text.Hex

/-!
# Reading JSON

Readers for the parts of a text, and `Json.parse`, which reads a whole value. Arrays and objects
nest at most 127 deep; the number of levels still allowed is an argument, and so the recursion needs
no other bound. A loop over the items of one level is bounded by the octets left.
-/

namespace ProbeGateway.Json

/-! ## Blanks and words -/

/-- Whether an octet is a blank between tokens. -/
def isSpace (b : UInt8) : Bool := b == 0x20 || b == 0x0A || b == 0x0D || b == 0x09

/-- The octets from the next token on. -/
def skipSpace (input : Bytes) : Bytes := input.dropWhile isSpace

/-- Whether an octet is a decimal digit. -/
def isDigitOctet (b : UInt8) : Bool := 0x30 ≤ b && b ≤ 0x39

/-- The number that digits spell. -/
def digitsValue (digits : Bytes) : Nat := digits.foldl (fun n b => n * 10 + (b.toNat - 0x30)) 0

/-- Reads the rest of a word. -/
def readWord : (word input : Bytes) → Except Fault Bytes
  | [], input => .ok input
  | _ :: _, [] => failHere .endOfValue []
  | w :: word, b :: rest => if w = b then readWord word rest else failHere .wordExpected rest

/-! ## Strings -/

/-- The value of four hexadecimal digits. -/
def hexValue? (a b c d : UInt8) : Option Nat := do
  let w ← Hex.value? a
  let x ← Hex.value? b
  let y ← Hex.value? c
  let z ← Hex.value? d
  some (((w * 16 + x) * 16 + y) * 16 + z)

/-- Reads four hexadecimal digits. -/
def readHex4 : Reader Nat
  | a :: b :: c :: d :: rest =>
    match hexValue? a b c d with
    | some n => .ok (n, rest)
    | none => failHere .badEscape rest
  | _ => failHere .endOfString []

/-- Whether a code unit is the first of a surrogate pair. -/
def isHighSurrogate (n : Nat) : Bool := 0xD800 ≤ n && n ≤ 0xDBFF

/-- Whether a code unit is the second of a surrogate pair. -/
def isLowSurrogate (n : Nat) : Bool := 0xDC00 ≤ n && n ≤ 0xDFFF

/-- Reads the escape that must follow the first half of a surrogate pair. -/
def readLowSurrogate (high : Nat) : Reader Char
  | [] => failHere .endOfString []
  | a :: rest =>
    if a ≠ 0x5C then failHere .unpairedSurrogate rest
    else match rest with
      | [] => failHere .endOfString []
      | b :: rest =>
        if b ≠ 0x75 then failHere .unpairedSurrogate rest
        else do
          let (low, rest) ← readHex4 rest
          if isLowSurrogate low then
            .ok (Char.ofNat ((high - 0xD800) * 0x400 + (low - 0xDC00) + 0x10000), rest)
          else failHere .loneSurrogate rest

/-- Reads the digits of a Unicode escape, and those of its second half where it needs one. -/
def readUnicodeEscape : Reader Char := fun input => do
  let (n, rest) ← readHex4 input
  if isLowSurrogate n then failHere .loneSurrogate rest
  else if isHighSurrogate n then readLowSurrogate n rest
  else .ok (Char.ofNat n, rest)

/-- Reads what follows a backslash. -/
def readEscape : Reader Char
  | [] => failHere .endOfString []
  | b :: rest =>
    if b = 0x22 then .ok ('"', rest)
    else if b = 0x5C then .ok ('\\', rest)
    else if b = 0x2F then .ok ('/', rest)
    else if b = 0x62 then .ok ('\x08', rest)
    else if b = 0x66 then .ok ('\x0c', rest)
    else if b = 0x6E then .ok ('\n', rest)
    else if b = 0x72 then .ok ('\r', rest)
    else if b = 0x74 then .ok ('\t', rest)
    else if b = 0x75 then readUnicodeEscape rest
    else failHere .badEscape rest

/-- Reads the octets of a string up to its closing quote. -/
def readStringOctets : (fuel : Nat) → Reader Bytes
  | 0, input => failHere .endOfString input
  | _ + 1, [] => failHere .endOfString []
  | fuel + 1, b :: rest =>
    if b = 0x22 then .ok ([], rest)
    else if b = 0x5C then do
      let (c, rest) ← readEscape rest
      let (tail, rest) ← readStringOctets fuel rest
      .ok (Utf8.encodeChar c ++ tail, rest)
    else if b < 0x20 then failHere .controlCharacter rest
    else do
      let (tail, rest) ← readStringOctets fuel rest
      .ok (b :: tail, rest)

/-- Reads a string after its opening quote. -/
def readString : Reader String := fun input => do
  let (content, rest) ← readStringOctets (input.length + 1) input
  match Utf8.decode? content with
  | some s => .ok (s, rest)
  | none => failHere .notUnicode rest

/-! ## Numbers -/

/-- Reads the digits of an exponent; when `bounded`, refuses at the digit that leaves 32 bits. -/
def readExponentDigits (bounded : Bool) : (value : Nat) → Reader Nat
  | value, [] => .ok (value, [])
  | value, b :: rest =>
    if isDigitOctet b then
      let next := value * 10 + (b.toNat - 0x30)
      if bounded ∧ 2147483647 < next then failHere .numberTooLarge rest
      else readExponentDigits bounded next rest
    else .ok (value, b :: rest)

/-- Takes digits behind a number as long as it fits 64 bits, and counts those that are left out from
the first that does not fit. -/
def takeDigits : (n : Nat) → (digits : Bytes) → Nat × Nat
  | n, [] => (n, 0)
  | n, b :: rest =>
    let next := n * 10 + (b.toNat - 0x30)
    if next < wordLimit then takeDigits next rest else (n, rest.length + 1)

/-- A number that is not written as an integer, unless it is too large. -/
def realNumber (negative : Bool) (significand : Nat) (exponent : Int) (rest : Bytes) :
    Except Fault (JsonNumber × Bytes) :=
  match Binary64.ofParts? significand exponent with
  | some x => .ok (.real (if negative then x.neg else x), rest)
  | none => failHere .numberTooLarge rest

/-- Reads what follows the letter of an exponent, for a number whose last digit has the place
`place`. -/
def readExponentPart (negative : Bool) (significand : Nat) (place : Int) : Reader JsonNumber :=
  fun input =>
    let (below, input) := match input with
      | 0x2B :: r => (false, r)
      | 0x2D :: r => (true, r)
      | r => (false, r)
    match input with
    | [] => failHere .endOfValue []
    | b :: rest =>
      if isDigitOctet b then do
        let (n, rest) ← readExponentDigits (!below && significand != 0) (b.toNat - 0x30) rest
        realNumber negative significand (if below then place - n else place + n) rest
      else failHere .badNumber rest

/-- Whether an octet begins an exponent part. -/
def isExponentMark (b : UInt8) : Bool := b == 0x65 || b == 0x45

/-- The number that whole digits alone spell: an integer while it fits 64 bits. -/
def wholeNumber (negative : Bool) (whole rest : Bytes) : Except Fault (JsonNumber × Bytes) :=
  let n := digitsValue whole
  let taken := takeDigits 0 whole
  if negative then
    if n ≠ 0 ∧ 2 * n ≤ wordLimit then .ok (.integer (-n), rest)
    else realNumber true taken.1 taken.2 rest
  else if n < wordLimit then .ok (.integer n, rest)
  else realNumber false taken.1 taken.2 rest

/-- Reads what follows the digits behind a point. -/
def readFractionTail (negative : Bool) (significand : Nat) (place : Int) : Reader JsonNumber
  | [] => realNumber negative significand place []
  | b :: rest =>
    if isExponentMark b then readExponentPart negative significand place rest
    else realNumber negative significand place (b :: rest)

/-- Reads what follows the point, where so many whole digits were left out. A digit behind the point
may still fit where a whole one did not. -/
def readFraction (negative : Bool) (significand left : Nat) : Reader JsonNumber := fun input =>
  let fraction := input.takeWhile isDigitOctet
  let rest := input.dropWhile isDigitOctet
  let taken := takeDigits significand fraction
  if fraction.isEmpty then
    if rest.isEmpty then failHere .endOfValue [] else failAtNext .badNumber rest
  else readFractionTail negative taken.1 (left - (fraction.length - taken.2)) rest

/-- Reads what follows the whole digits of a number. -/
def readNumberTail (negative : Bool) (whole : Bytes) : Reader JsonNumber
  | [] => wholeNumber negative whole []
  | b :: rest =>
    let taken := takeDigits 0 whole
    if b = 0x2E then readFraction negative taken.1 taken.2 rest
    else if isExponentMark b then readExponentPart negative taken.1 taken.2 rest
    else wholeNumber negative whole (b :: rest)

/-- Reads a number after its sign. -/
def readNumber (negative : Bool) : Reader JsonNumber
  | [] => failHere .endOfValue []
  | b :: rest =>
    if b = 0x30 then
      match rest with
      | c :: _ =>
        if isDigitOctet c then failAtNext .badNumber rest else readNumberTail negative [b] rest
      | [] => readNumberTail negative [b] []
    else if isDigitOctet b then
      readNumberTail negative (b :: rest.takeWhile isDigitOctet) (rest.dropWhile isDigitOctet)
    else failHere .badNumber rest

/-! ## Arrays and objects -/

/-- Reads the items of an array up to its closing bracket. -/
def readItems {α : Type} (item : Reader α) : (fuel : Nat) → (first : Bool) → Reader (List α)
  | 0, _, input => failHere .endOfArray input
  | fuel + 1, first, input =>
    match skipSpace input with
    | [] => failHere .endOfArray []
    | b :: rest =>
      if b = 0x5D then .ok ([], rest)
      else if first then do
        let (x, rest) ← item (b :: rest)
        let (xs, rest) ← readItems item fuel false rest
        .ok (x :: xs, rest)
      else if b = 0x2C then
        match skipSpace rest with
        | [] => failHere .endOfValue []
        | c :: rest =>
          if c = 0x5D then failAtNext .trailingComma (c :: rest)
          else do
            let (x, rest) ← item (c :: rest)
            let (xs, rest) ← readItems item fuel false rest
            .ok (x :: xs, rest)
      else failAtNext .arrayCommaExpected (b :: rest)

/-- Reads the colon after a key. -/
def readColon (input : Bytes) : Except Fault Bytes :=
  match skipSpace input with
  | [] => failHere .endOfObject []
  | b :: rest => if b = 0x3A then .ok rest else failAtNext .colonExpected (b :: rest)

/-- Reads a key, where its opening quote is expected. -/
def readKey : Reader String
  | [] => failHere .endOfValue []
  | b :: rest => if b = 0x22 then readString rest else failAtNext .keyNotText (b :: rest)

/-- Reads the members of an object up to its closing brace. Each member is read, from behind its
key, by a function of the key and of what the members before it left. -/
def readMembers {σ : Type} (member : String → σ → Reader σ) :
    (fuel : Nat) → (first : Bool) → σ → Reader σ
  | 0, _, _, input => failHere .endOfObject input
  | fuel + 1, first, state, input =>
    match skipSpace input with
    | [] => failHere .endOfObject []
    | b :: rest =>
      if b = 0x7D then .ok (state, rest)
      else if first then do
        let (key, rest) ← readKey (b :: rest)
        let (state, rest) ← member key state rest
        readMembers member fuel false state rest
      else if b = 0x2C then
        match skipSpace rest with
        | [] => failHere .endOfValue []
        | c :: rest =>
          if c = 0x7D then failAtNext .trailingComma (c :: rest)
          else do
            let (key, rest) ← readKey (c :: rest)
            let (state, rest) ← member key state rest
            readMembers member fuel false state rest
      else failAtNext .objectCommaExpected (b :: rest)

/-! ## Values -/

/-- The levels of nesting that a text may have. -/
def maxLevels : Nat := 127

/-- Reads a value whose arrays and objects are read by the two given readers, both of which begin
behind the bracket. -/
def readValueWith (array object : Reader Json) : Reader Json := fun input =>
  match skipSpace input with
  | [] => failHere .endOfValue []
  | b :: rest =>
    if b = 0x6E then do .ok (.null, ← readWord (octets "ull") rest)
    else if b = 0x74 then do .ok (.bool true, ← readWord (octets "rue") rest)
    else if b = 0x66 then do .ok (.bool false, ← readWord (octets "alse") rest)
    else if b = 0x2D then do
      let (n, rest) ← readNumber true rest
      .ok (.number n, rest)
    else if isDigitOctet b then do
      let (n, rest) ← readNumber false (b :: rest)
      .ok (.number n, rest)
    else if b = 0x22 then do
      let (s, rest) ← readString rest
      .ok (.text s, rest)
    else if b = 0x5B then array rest
    else if b = 0x7B then object rest
    else failAtNext .valueExpected (b :: rest)

/-- Reads a member of an object of values; the last of equal keys stays. -/
def readMember (value : Reader Json) (key : String) (members : List (String × Json)) :
    Reader (List (String × Json)) := fun input => do
  let rest ← readColon input
  let (v, rest) ← value rest
  .ok (Sorted.insert key v members, rest)

/-- Reads a value with arrays and objects nested at most `levels` deep. -/
def readValue : (levels : Nat) → Reader Json
  | 0 => readValueWith (failHere .tooDeep) (failHere .tooDeep)
  | levels + 1 =>
    readValueWith
      (fun input => do
        let (items, rest) ← readItems (readValue levels) (input.length + 1) true input
        .ok (.array items, rest))
      (fun input => do
        let (members, rest) ←
          readMembers (readMember (readValue levels)) (input.length + 1) true [] input
        .ok (.object members, rest))

/-- Reads a whole text, blanks around the value included. -/
def parseWith {α : Type} (reader : Reader α) (input : Bytes) : Except Refusal α :=
  let outcome := do
    let (x, rest) ← reader input
    match skipSpace rest with
    | [] => .ok x
    | b :: rest => failAtNext .trailingCharacters (b :: rest)
  outcome.mapError (·.locate input)

/-- The value that octets spell as a JSON text. -/
def parse (input : Bytes) : Except Refusal Json := parseWith (readValue maxLevels) input

end ProbeGateway.Json
