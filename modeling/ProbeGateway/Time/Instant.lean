import ProbeGateway.Json.Writer
import ProbeGateway.Time.Calendar

/-!
# Instants and their text

An instant is a number of seconds since 1970 in universal time, and nanoseconds. Within a leap
second the nanoseconds go on from one thousand million while the second stays the one before, so
the leap second is distinct from the second that follows it. Nothing keeps the nanoseconds from
going on behind another second than the last of a minute, but the text of such an instant spells the
next second (`carried`). The text has no more fraction digits than it needs, in groups of three.
-/

namespace ProbeGateway

/-- A point in universal time. -/
structure Instant where
  /-- Seconds since 1970-01-01T00:00:00Z, without leap seconds. -/
  seconds : Int
  /-- Nanoseconds in the second; from `10 ^ 9` on they lie in a leap second after it. -/
  nanos : Nat
deriving DecidableEq, Repr

namespace Instant

/-- The nanoseconds of a second. -/
def nanosPerSecond : Nat := 1000000000

/-- The seconds of a day. -/
def secondsPerDay : Int := 86400

/-- Whether a calendar with six-digit years can hold the instant: its year is in range, and its
nanoseconds are those of two seconds. -/
def isRepresentable (t : Instant) : Bool :=
  let year := (Date.ofDayNumber (t.seconds / secondsPerDay)).year
  Date.minYear ≤ year && year ≤ Date.maxYear && t.nanos < 2 * nanosPerSecond

/-- Whether a text can spell the instant: there is a leap second behind second 59, and behind no
other. -/
def isSpelled (t : Instant) : Bool := t.nanos < nanosPerSecond || t.seconds % 60 == 59

/-- The instant that the text of an instant spells: nanoseconds of a leap second that no text has
are carried into the second that follows. -/
def carried (t : Instant) : Instant :=
  if t.isSpelled then t else ⟨t.seconds + 1, t.nanos - nanosPerSecond⟩

/-- The instant that stands for "never". -/
def never : Instant := ⟨-62135596800, 0⟩

/-- A number in at least `width` digits. -/
def padded (width n : Nat) : List Char :=
  let digits := decimalDigits n
  List.replicate (width - digits.length) '0' ++ digits

/-- A year: four digits, or a sign and at least four outside 0 to 9999. -/
def yearText (year : Int) : List Char :=
  if 0 ≤ year ∧ year ≤ 9999 then padded 4 year.toNat
  else if year < 0 then '-' :: padded 4 year.natAbs
  else '+' :: padded 4 year.natAbs

/-- A fraction of a second in none, three, six or nine digits. -/
def fractionText (nanos : Nat) : List Char :=
  if nanos = 0 then []
  else if nanos % 1000000 = 0 then '.' :: padded 3 (nanos / 1000000)
  else if nanos % 1000 = 0 then '.' :: padded 6 (nanos / 1000)
  else '.' :: padded 9 nanos

/-- A date, between hyphens. -/
def dateText (d : Date) : List Char :=
  yearText d.year ++ '-' :: padded 2 d.month ++ '-' :: padded 2 d.day

/-- A second of the day and nanoseconds as a time of day; a leap second is second 60. -/
def timeText (secondOfDay nanos : Nat) : List Char :=
  let leap := nanosPerSecond ≤ nanos
  let second := secondOfDay % 60 + if leap then 1 else 0
  let nanos := if leap then nanos - nanosPerSecond else nanos
  padded 2 (secondOfDay / 3600) ++ ':' :: padded 2 (secondOfDay / 60 % 60) ++ ':' ::
    padded 2 second ++ fractionText nanos

/-- The characters of an instant's text. -/
def write (t : Instant) : List Char :=
  dateText (Date.ofDayNumber (t.seconds / secondsPerDay)) ++ 'T' ::
    timeText (t.seconds % secondsPerDay).toNat t.nanos ++ ['Z']

/-- The text of an instant. -/
def text (t : Instant) : String := String.ofList t.write

example : text ⟨0, 0⟩ = "1970-01-01T00:00:00Z" := by decide +kernel
example : text ⟨1483228799, 1500000000⟩ = "2016-12-31T23:59:60.500Z" := by decide +kernel
example : text ⟨30, 1500000000⟩ = text ⟨31, 500000000⟩ := by decide +kernel
example : text never = "0001-01-01T00:00:00Z" := by decide +kernel
example : text ⟨253402300800, 1⟩ = "+10000-01-01T00:00:00.000000001Z" := by decide +kernel

end Instant

end ProbeGateway
