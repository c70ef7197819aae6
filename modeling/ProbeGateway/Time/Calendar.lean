/-!
# The civil calendar

Dates of the proleptic Gregorian calendar and the numbers of their days, day zero being
1970-01-01. Years are counted from March on while computing, so that the leap day ends a year, and
in cycles of 400 years, which have the same number of days each.
-/

namespace ProbeGateway

/-- A year, a month and a day of the month. -/
structure Date where
  year : Int
  month : Nat
  day : Nat
deriving DecidableEq, Repr

namespace Date

/-- Whether a year has a leap day. -/
def isLeapYear (year : Int) : Bool :=
  year % 4 == 0 && (year % 100 != 0 || year % 400 == 0)

/-- How many days a month has. -/
def daysInMonth (year : Int) (month : Nat) : Nat :=
  if month = 2 then if isLeapYear year then 29 else 28
  else if month = 4 ∨ month = 6 ∨ month = 9 ∨ month = 11 then 30
  else 31

/-- Whether the month and the day exist. -/
def isCivil (d : Date) : Bool :=
  1 ≤ d.month && d.month ≤ 12 && 1 ≤ d.day && d.day ≤ daysInMonth d.year d.month

/-- The days of a cycle of 400 years. -/
def cycleDays : Int := 146097

/-- The days from the first of March of year zero to 1970-01-01. -/
def epochOffset : Int := 719468

/-- The number of a day. -/
def dayNumber (d : Date) : Int :=
  let year : Int := if d.month ≤ 2 then d.year - 1 else d.year
  let cycle := year / 400
  let yearOfCycle := year % 400
  let month : Int := if d.month ≤ 2 then d.month + 9 else d.month - 3
  let dayOfYear := (153 * month + 2) / 5 + d.day - 1
  let dayOfCycle := yearOfCycle * 365 + yearOfCycle / 4 - yearOfCycle / 100 + dayOfYear
  cycle * cycleDays + dayOfCycle - epochOffset

/-- The date of a day number. -/
def ofDayNumber (n : Int) : Date :=
  let days := n + epochOffset
  let cycle := days / cycleDays
  let dayOfCycle := days % cycleDays
  let yearOfCycle :=
    (dayOfCycle - dayOfCycle / 1460 + dayOfCycle / 36524 - dayOfCycle / 146096) / 365
  let dayOfYear := dayOfCycle - (365 * yearOfCycle + yearOfCycle / 4 - yearOfCycle / 100)
  let month := (5 * dayOfYear + 2) / 153
  let day := dayOfYear - (153 * month + 2) / 5 + 1
  let year := yearOfCycle + cycle * 400
  if month < 10 then ⟨year, (month + 3).toNat, day.toNat⟩
  else ⟨year + 1, (month - 9).toNat, day.toNat⟩

/-- The first year that an instant can lie in. -/
def minYear : Int := -262143

/-- The last year that an instant can lie in. -/
def maxYear : Int := 262142

example : dayNumber ⟨1970, 1, 1⟩ = 0 ∧ dayNumber ⟨1, 1, 1⟩ = -719162 ∧
    dayNumber ⟨2024, 2, 29⟩ = 19782 := by decide
example : ofDayNumber 0 = ⟨1970, 1, 1⟩ ∧ ofDayNumber (-719529) = ⟨-1, 12, 31⟩ ∧
    ofDayNumber 19782 = ⟨2024, 2, 29⟩ ∧ ofDayNumber 2932897 = ⟨10000, 1, 1⟩ := by decide

end Date

end ProbeGateway
