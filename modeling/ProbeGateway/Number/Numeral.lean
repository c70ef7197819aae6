import ProbeGateway.Number.Binary64

/-!
# Reading numerals

Two readers of a whole text: an unsigned integer below `2 ^ 64`, and a double-precision number. Each
refusal has a cause with a wording of its own.
-/

namespace ProbeGateway

/-- Whether a character is a decimal digit. -/
def isDigit (c : Char) : Bool := '0' ≤ c && c ≤ '9'

/-- The value of a decimal digit. -/
def digitValue (c : Char) : Nat := c.toNat - '0'.toNat

/-- The number that decimal digits spell, after a number already read. -/
def readDigits (acc : Nat) (digits : List Char) : Nat :=
  digits.foldl (fun n c => n * 10 + digitValue c) acc

/-! ## Unsigned integers -/

/-- The first number that does not fit 64 bits. -/
def wordLimit : Nat := Nat.pow 2 64

/-- Why a text is no unsigned integer of 64 bits. -/
inductive CountFault
  | empty
  | invalidDigit
  | tooLarge
deriving DecidableEq, Repr

/-- The wording of a refusal. -/
def CountFault.message : CountFault → String
  | empty => "cannot parse integer from empty string"
  | invalidDigit => "invalid digit found in string"
  | tooLarge => "number too large to fit in target type"

/-- Adds digits to a number, and refuses the first character that is no digit or goes too far. -/
def accumulate (limit : Nat) : (acc : Nat) → List Char → Except CountFault Nat
  | acc, [] => .ok acc
  | acc, c :: rest =>
    if isDigit c then
      let next := acc * 10 + digitValue c
      if next < limit then accumulate limit next rest else .error .tooLarge
    else .error .invalidDigit

/-- Reads an optional plus sign and decimal digits as a number below `limit`. -/
def readCount (limit : Nat) (s : String) : Except CountFault Nat :=
  match s.toList with
  | [] => .error .empty
  | ['+'] => .error .invalidDigit
  | '+' :: rest => accumulate limit 0 rest
  | cs => accumulate limit 0 cs

/-! ## Double-precision numbers -/

/-- The value of an exponent part, after its letter. -/
def readExponent (s : List Char) : Option Int :=
  let (negative, digits) := match s with
    | '+' :: r => (false, r)
    | '-' :: r => (true, r)
    | r => (false, r)
  if digits.isEmpty || !digits.all isDigit then none
  else
    let n : Int := readDigits 0 digits
    some (if negative then -n else n)

/-- Reads an unsigned decimal numeral with an optional fraction and exponent. -/
def readDecimal (negative : Bool) (s : List Char) : Option Binary64 :=
  let whole := s.takeWhile isDigit
  let rest := s.dropWhile isDigit
  let (fraction, rest) := match rest with
    | '.' :: r => (r.takeWhile isDigit, r.dropWhile isDigit)
    | r => ([], r)
  if whole.isEmpty && fraction.isEmpty then none
  else
    let value (e : Int) : Binary64 :=
      .ofDecimal negative (readDigits 0 (whole ++ fraction)) (e - fraction.length)
    match rest with
    | [] => some (value 0)
    | c :: r => if c = 'e' ∨ c = 'E' then (readExponent r).map value else none

/-- Reads a number: a decimal numeral, an infinity or no number, each with an optional sign. -/
def Binary64.parse? (s : String) : Option Binary64 :=
  let (negative, rest) := match s.toList with
    | '+' :: r => (false, r)
    | '-' :: r => (true, r)
    | r => (false, r)
  let word := String.ofList (rest.map Char.toLower)
  if word = "inf" ∨ word = "infinity" then some (.infinity negative)
  else if word = "nan" then some .nan
  else readDecimal negative rest

example : Binary64.parse? "+.5" = some (.ofDecimal false 5 (-1)) := by decide +kernel
example : Binary64.parse? "1E-3" = some (.ofDecimal false 1 (-3)) := by decide +kernel
example : Binary64.parse? "." = none ∧ Binary64.parse? "0.1e" = none := by decide +kernel

end ProbeGateway
