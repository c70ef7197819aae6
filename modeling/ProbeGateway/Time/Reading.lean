import ProbeGateway.Number.Numeral
import ProbeGateway.Text.Blank
import ProbeGateway.Time.Instant

/-!
# Reading instants

Two readers of a date and time with an offset from universal time. The strict one takes RFC 3339 to
the letter. The relaxed one lets fields lose their leading zeros, years carry a sign and more
digits, blanks stand before fields and separators, and `UTC` stand for the offset.
-/

namespace ProbeGateway

/-- Why a text is no instant. -/
inductive TimeFault
  | outOfRange
  | impossible
  | invalid
  | tooShort
  | tooLong
deriving DecidableEq, Repr

/-- The wording of a refusal. -/
def TimeFault.message : TimeFault → String
  | outOfRange => "input is out of range"
  | impossible => "no possible date and time matching input"
  | invalid => "input contains invalid characters"
  | tooShort => "premature end of input"
  | tooLong => "trailing input"

namespace TimeReading

/-! ## Parts -/

/-- Reads at least one and at most `limit` digits, if there is a limit. -/
def number (limit : Option Nat) (s : List Char) : Except TimeFault (Nat × List Char) :=
  let digits := (match limit with
    | some n => s.take n
    | none => s).takeWhile isDigit
  if s.isEmpty then .error .tooShort
  else if digits.isEmpty then .error .invalid
  else .ok (readDigits 0 digits, s.drop digits.length)

/-- Reads exactly `width` digits. -/
def fixedNumber (width : Nat) (s : List Char) : Except TimeFault (Nat × List Char) :=
  let digits := s.take width
  if digits.length < width then .error .tooShort
  else if digits.all isDigit then .ok (readDigits 0 digits, s.drop width)
  else .error .invalid

/-- Lets a value pass that lies in a range. -/
def inRange (low high : Nat) (part : Nat × List Char) : Except TimeFault (Nat × List Char) :=
  if low ≤ part.1 ∧ part.1 ≤ high then .ok part else .error .outOfRange

/-- Reads one given character. -/
def literal (c : Char) : List Char → Except TimeFault (List Char)
  | [] => .error .tooShort
  | d :: rest => if d = c then .ok rest else .error .invalid

/-- Reads a year: up to four digits, or a sign and any number of them. -/
def signedYear (s : List Char) : Except TimeFault (Int × List Char) :=
  let bounded (year : Int) (rest : List Char) : Except TimeFault (Int × List Char) :=
    if -2147483648 ≤ year ∧ year ≤ 2147483647 then .ok (year, rest) else .error .outOfRange
  match s with
  | '-' :: r => do
    let (n, rest) ← number none r
    bounded (-n) rest
  | '+' :: r => do
    let (n, rest) ← number none r
    bounded n rest
  | r => do
    let (n, rest) ← number (some 4) r
    bounded n rest

/-- Reads a fraction of a second after its point; digits past the ninth are dropped. -/
def fraction (s : List Char) : Except TimeFault (Nat × List Char) := do
  let digits := (s.take 9).takeWhile isDigit
  let (n, rest) ← number (some 9) s
  .ok (n * Nat.pow 10 (9 - digits.length), rest.dropWhile isDigit)

/-- Reads a fraction if a point stands first. -/
def optionalFraction : List Char → Except TimeFault (Nat × List Char)
  | '.' :: r => fraction r
  | s => .ok (0, s)

/-- Reads the letter or blank between date and time. -/
def dateTimeMark : List Char → Except TimeFault (List Char)
  | [] => .error .tooShort
  | c :: rest => if c = 't' ∨ c = 'T' ∨ c = ' ' then .ok rest else .error .invalid

/-- Reads two digits; a text of fewer than two octets is too short for them. -/
def digitPair : List Char → Except TimeFault (Char × Char × List Char)
  | [] => .error .tooShort
  | [c] => if c.toNat < 0x80 then .error .tooShort else .error .invalid
  | c :: d :: rest => if isDigit c && isDigit d then .ok (c, d, rest) else .error .invalid

/-- Reads the minutes of an offset; tens from six on are out of range, not malformed. -/
def offsetMinutes (s : List Char) : Except TimeFault (Nat × List Char) := do
  let (m, m', rest) ← digitPair s
  if m ≤ '5' then .ok (digitValue m * 10 + digitValue m', rest) else .error .outOfRange

/-- Reads an offset in seconds after its sign: hours, something between, and minutes. -/
def unsignedOffset (between : List Char → Except TimeFault (List Char)) (s : List Char) :
    Except TimeFault (Nat × List Char) := do
  let (h, h', rest) ← digitPair s
  let rest ← between rest
  let (minutes, rest) ← offsetMinutes rest
  .ok ((digitValue h * 10 + digitValue h') * 3600 + minutes * 60, rest)

/-- Reads an offset in seconds: `Z`, or a sign, hours and minutes. -/
def offset (between : List Char → Except TimeFault (List Char)) :
    List Char → Except TimeFault (Int × List Char)
  | [] => .error .tooShort
  | c :: rest =>
    if c = 'Z' ∨ c = 'z' then .ok (0, rest)
    else if c = '+' then do
      let (seconds, rest) ← unsignedOffset between rest
      .ok (seconds, rest)
    else if c = '-' ∨ c = '\u2212' then do
      let (seconds, rest) ← unsignedOffset between rest
      .ok (-seconds, rest)
    else .error .invalid

/-! ## The instant of its parts -/

/-- A civil time with its offset. -/
structure Civil where
  date : Date
  hour : Nat
  minute : Nat
  /-- From 0 to 60, where 60 is a leap second. -/
  second : Nat
  nanos : Nat
  offset : Int

/-- The instant of a civil time. -/
def Civil.instant (c : Civil) : Except TimeFault Instant :=
  if ¬ (c.date.isCivil ∧ Date.minYear ≤ c.date.year ∧ c.date.year ≤ Date.maxYear) then
    .error .outOfRange
  else if Instant.secondsPerDay ≤ c.offset ∨ c.offset ≤ -Instant.secondsPerDay then
    .error .outOfRange
  else
    let leap := c.second = 60
    let second := if leap then 59 else c.second
    let seconds := c.date.dayNumber * Instant.secondsPerDay
      + ((c.hour * 3600 + c.minute * 60 + second : Nat) : Int) - c.offset
    let year := (Date.ofDayNumber (seconds / Instant.secondsPerDay)).year
    if year < Date.minYear ∨ Date.maxYear < year then .error .impossible
    else .ok ⟨seconds, c.nanos + if leap then Instant.nanosPerSecond else 0⟩

/-! ## The two readers -/

/-- The largest offset, in either direction, that RFC 3339 can write. -/
def maxStrictOffset : Int := (23 * 60 + 59) * 60

/-- Reads a date and time by RFC 3339. -/
def strict (s : List Char) : Except TimeFault Instant := do
  let (year, s) ← fixedNumber 4 s
  let s ← literal '-' s
  let (month, s) ← fixedNumber 2 s >>= inRange 1 12
  let s ← literal '-' s
  let (day, s) ← fixedNumber 2 s >>= inRange 1 31
  let s ← dateTimeMark s
  let (hour, s) ← fixedNumber 2 s >>= inRange 0 23
  let s ← literal ':' s
  let (minute, s) ← fixedNumber 2 s >>= inRange 0 59
  let s ← literal ':' s
  let (second, s) ← fixedNumber 2 s >>= inRange 0 60
  let (nanos, s) ← optionalFraction s
  let (off, s) ← offset (literal ':') s
  if off < -maxStrictOffset ∨ maxStrictOffset < off then .error .outOfRange
  else if !s.isEmpty then .error .tooLong
  else Civil.instant ⟨⟨year, month, day⟩, hour, minute, second, nanos, off⟩

/-- Whether a text begins with `UTC` in any case. -/
def startsWithUtc : List Char → Bool
  | a :: b :: c :: _ => a.toLower = 'u' && b.toLower = 't' && c.toLower = 'c'
  | _ => false

/-- Reads a date and time in the relaxed form. -/
def relaxed (s : List Char) : Except TimeFault Instant := do
  let (year, s) ← signedYear (skipBlanks s)
  let s ← literal '-' (skipBlanks s)
  let (month, s) ← number (some 2) (skipBlanks s) >>= inRange 1 12
  let s ← literal '-' (skipBlanks s)
  let (day, s) ← number (some 2) (skipBlanks s) >>= inRange 1 31
  let s ← dateTimeMark s
  let (hour, s) ← number (some 2) (skipBlanks s) >>= inRange 0 23
  let s ← literal ':' (skipBlanks s)
  let (minute, s) ← number (some 2) (skipBlanks s) >>= inRange 0 59
  let s ← literal ':' (skipBlanks s)
  let (second, s) ← number (some 2) (skipBlanks s) >>= inRange 0 60
  let (nanos, s) ← optionalFraction s
  let s := skipBlanks s
  let (off, s) ← if startsWithUtc s then .ok (0, s.drop 3)
    else offset (fun r => .ok (r.dropWhile fun c => c = ':' || isBlank c)) s
  if !(skipBlanks s).isEmpty then .error .tooLong
  else Civil.instant ⟨⟨year, month, day⟩, hour, minute, second, nanos, off⟩

end TimeReading

namespace Instant

/-- Reads an instant by RFC 3339. -/
def parseStrict (s : String) : Except TimeFault Instant := TimeReading.strict s.toList

/-- Reads an instant in the relaxed form. -/
def parseRelaxed (s : String) : Except TimeFault Instant := TimeReading.relaxed s.toList

example : (parseStrict "2024-05-01T12:30:00.1234567899+02:00").toOption =
    some ⟨1714559400, 123456789⟩ := by decide +kernel
example : (parseStrict "0000-12-31T23:00:00-01:00").toOption = some never := by decide +kernel
example : (parseRelaxed "+2024 -5-1 1: 2:3 utc ").toOption =
    (parseStrict "2024-05-01T01:02:03Z").toOption := by decide +kernel

end Instant

end ProbeGateway
