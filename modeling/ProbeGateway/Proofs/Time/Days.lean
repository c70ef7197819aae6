import Mathlib.Data.Int.Init
import ProbeGateway.Proofs.Time.Calendar

/-!
# Days counted one by one

The number of a day is the number that counting gives. Two dates are so many days apart if the one
is reached from the other from day to day (`Date.Apart`), and then their numbers differ by as much
(`Date.apart_iff`).

1. A day number is the start of a year and of a month, both from March on, and a day
   (`dayNumber_eq`); the parts of a date that exists stay within the year and the month
   (`marchParts_bounds`), so different dates have different numbers (`dayNumber_injective`).
2. The day after a date exists (`isCivil_next`) and has the number after it (`dayNumber_next`).
-/

namespace ProbeGateway.Date

/-- The day after a date. -/
def next (d : Date) : Date :=
  if d.day < daysInMonth d.year d.month then ⟨d.year, d.month, d.day + 1⟩
  else if d.month < 12 then ⟨d.year, d.month + 1, 1⟩
  else ⟨d.year + 1, 1, 1⟩

/-- A date is so many days after a given one, or before it if the number is negative. -/
inductive Apart (d : Date) : (days : Int) → (e : Date) → Prop
  | same : Apart d 0 d
  | next {n : Int} {e : Date} (h : Apart d n e) : Apart d (n + 1) e.next
  | previous {n : Int} {e : Date} (hcivil : e.isCivil = true) (h : Apart d n e.next) :
    Apart d (n - 1) e

variable {d e : Date}

/-! ## Dates from March on -/

/-- The year of a date, begun in March. -/
def marchYear (d : Date) : Int := if d.month ≤ 2 then d.year - 1 else d.year

/-- The month of a date, March being month zero. -/
def marchMonth (d : Date) : Int := if d.month ≤ 2 then d.month + 9 else d.month - 3

theorem dayNumber_eq (d : Date) :
    d.dayNumber = yearStart d.marchYear + monthStart d.marchMonth + d.day - 1 - epochOffset := by
  unfold dayNumber yearStart monthStart cycleDays
  dsimp only
  rw [show (if d.month ≤ 2 then d.year - 1 else d.year) = d.marchYear from rfl,
    show (if d.month ≤ 2 then (d.month : Int) + 9 else d.month - 3) = d.marchMonth from rfl]
  omega

theorem isCivil_iff :
    d.isCivil = true ↔
      1 ≤ d.month ∧ d.month ≤ 12 ∧ 1 ≤ d.day ∧ d.day ≤ daysInMonth d.year d.month := by
  unfold isCivil
  simp only [Bool.and_eq_true, decide_eq_true_eq, and_assoc]

theorem isLeapYear_iff {year : Int} :
    isLeapYear year = true ↔ year % 4 = 0 ∧ (year % 100 ≠ 0 ∨ year % 400 = 0) := by
  unfold isLeapYear
  simp only [Bool.and_eq_true, Bool.or_eq_true, beq_iff_eq, bne_iff_ne]

/-- The months from March to January are as long as their starts are apart. -/
theorem daysInMonth_eq (hlow : 1 ≤ d.month) (hhigh : d.month ≤ 12) (hfeb : d.month ≠ 2) :
    monthStart (d.marchMonth + 1) = monthStart d.marchMonth + daysInMonth d.year d.month := by
  have hmonths : d.month = 1 ∨ d.month = 3 ∨ d.month = 4 ∨ d.month = 5 ∨ d.month = 6 ∨ d.month = 7 ∨
      d.month = 8 ∨ d.month = 9 ∨ d.month = 10 ∨ d.month = 11 ∨ d.month = 12 := by omega
  unfold marchMonth
  rcases hmonths with h | h | h | h | h | h | h | h | h | h | h
  all_goals
    rw [h]
    rfl

/-- February is as long as the rest of the year that begins in March. -/
theorem daysInMonth_two (year : Int) :
    yearStart year = yearStart (year - 1) + monthStart 11 + daysInMonth year 2 := by
  have hdays : daysInMonth year 2 = if isLeapYear year then 29 else 28 := if_pos rfl
  rw [hdays]
  unfold yearStart monthStart
  split
  · next hleap =>
    rw [isLeapYear_iff] at hleap
    omega
  · next hordinary =>
    rw [isLeapYear_iff] at hordinary
    omega

/-- The day of a date lies in its month, and its month in its year. -/
theorem marchParts_bounds (h : d.isCivil = true) :
    (0 ≤ d.marchMonth ∧ d.marchMonth ≤ 11) ∧ 1 ≤ d.day ∧
      monthStart d.marchMonth + d.day ≤ yearStart (d.marchYear + 1) - yearStart d.marchYear ∧
      (d.marchMonth < 11 →
        monthStart d.marchMonth + d.day ≤ monthStart (d.marchMonth + 1)) := by
  obtain ⟨hmonth1, hmonth12, hday1, hday⟩ := isCivil_iff.mp h
  have hmonth : 0 ≤ d.marchMonth ∧ d.marchMonth ≤ 11 := by
    unfold marchMonth
    split <;> omega
  by_cases hfeb : d.month = 2
  · have hyear := daysInMonth_two d.year
    have hparts : d.marchMonth = 11 ∧ d.marchYear = d.year - 1 := by
      unfold marchMonth marchYear
      rw [hfeb]
      exact ⟨rfl, rfl⟩
    rw [hfeb] at hday
    rw [hparts.1, hparts.2, Int.sub_add_cancel]
    exact ⟨by omega, hday1, by omega, by omega⟩
  · have hlength := daysInMonth_eq hmonth1 hmonth12 hfeb
    have hlast : d.marchMonth < 11 := by
      unfold marchMonth
      split <;> omega
    refine ⟨hmonth, hday1, ?_, fun _ => by omega⟩
    -- A year has more days than its first eleven months.
    have hyear : monthStart 11 + 28 ≤ yearStart (d.marchYear + 1) - yearStart d.marchYear := by
      unfold monthStart yearStart
      omega
    have hmono : monthStart (d.marchMonth + 1) ≤ monthStart 11 := by
      unfold monthStart
      omega
    omega

theorem yearStart_mono {a b : Int} (h : a ≤ b) : yearStart a ≤ yearStart b := by
  unfold yearStart
  omega

theorem monthStart_mono {a b : Int} (h : a ≤ b) : monthStart a ≤ monthStart b := by
  unfold monthStart
  omega

/-- **Different dates have different numbers.** -/
theorem dayNumber_injective (hd : d.isCivil = true) (he : e.isCivil = true)
    (h : d.dayNumber = e.dayNumber) : d = e := by
  obtain ⟨hmonth, hday1, hyear, hnext⟩ := marchParts_bounds hd
  obtain ⟨hmonth', hday1', hyear', hnext'⟩ := marchParts_bounds he
  have hfirst := monthStart_mono hmonth.1
  have hfirst' := monthStart_mono hmonth'.1
  have hzero : monthStart 0 = 0 := rfl
  rw [dayNumber_eq, dayNumber_eq] at h
  -- An earlier year, or an earlier month of one year, ends before the later one begins.
  have hsameYear : d.marchYear = e.marchYear := by
    rcases Int.lt_trichotomy d.marchYear e.marchYear with hlt | heq | hgt
    · have := yearStart_mono (show d.marchYear + 1 ≤ e.marchYear from hlt)
      omega
    · exact heq
    · have := yearStart_mono (show e.marchYear + 1 ≤ d.marchYear from hgt)
      omega
  rw [hsameYear] at h
  have hsameMonth : d.marchMonth = e.marchMonth := by
    rcases Int.lt_trichotomy d.marchMonth e.marchMonth with hlt | heq | hgt
    · have := monthStart_mono (show d.marchMonth + 1 ≤ e.marchMonth from hlt)
      omega
    · exact heq
    · have := monthStart_mono (show e.marchMonth + 1 ≤ d.marchMonth from hgt)
      omega
  rw [hsameMonth] at h
  obtain ⟨hlow, hhigh, -, -⟩ := isCivil_iff.mp hd
  obtain ⟨hlow', hhigh', -, -⟩ := isCivil_iff.mp he
  obtain ⟨year, month, day⟩ := d
  obtain ⟨year', month', day'⟩ := e
  unfold marchYear at hsameYear
  unfold marchMonth at hsameMonth
  dsimp only at *
  have hmonths : month = month' := by
    split at hsameMonth <;> split at hsameMonth <;> omega
  subst hmonths
  rw [Date.mk.injEq]
  refine ⟨?_, rfl, by omega⟩
  split at hsameYear <;> omega

/-! ## From one day to the next -/

theorem daysInMonth_pos (year : Int) (month : Nat) : 1 ≤ daysInMonth year month := by
  unfold daysInMonth
  repeat' split
  all_goals omega

theorem isCivil_next (h : d.isCivil = true) : d.next.isCivil = true := by
  obtain ⟨hmonth1, hmonth12, hday1, hday⟩ := isCivil_iff.mp h
  rw [isCivil_iff]
  unfold next
  split
  · next hlt => exact ⟨hmonth1, hmonth12, Nat.succ_pos _, hlt⟩
  · split
    · next hlt => exact ⟨Nat.succ_pos _, hlt, Nat.le_refl 1, daysInMonth_pos _ _⟩
    · exact ⟨Nat.le_refl 1, Nat.succ_le_succ (Nat.zero_le 11), Nat.le_refl 1, daysInMonth_pos _ _⟩

/-- Where a month ends that is not February, the next one begins in the same year from March on. -/
theorem marchParts_next (hmonth1 : 1 ≤ d.month) (hmonth12 : d.month ≤ 12) (hfeb : d.month ≠ 2)
    (hlast : ¬ d.day < daysInMonth d.year d.month) :
    d.next.marchYear = d.marchYear ∧ d.next.marchMonth = d.marchMonth + 1 ∧ d.next.day = 1 := by
  unfold next
  rw [if_neg hlast]
  split
  all_goals
    unfold marchYear marchMonth
    dsimp only
    refine ⟨?_, ?_, rfl⟩
    all_goals split <;> split <;> omega

/-- The day after a date has the next number. -/
theorem dayNumber_next (h : d.isCivil = true) : d.next.dayNumber = d.dayNumber + 1 := by
  obtain ⟨hmonth1, hmonth12, hday1, hday⟩ := isCivil_iff.mp h
  rw [dayNumber_eq, dayNumber_eq]
  by_cases hlast : d.day < daysInMonth d.year d.month
  · have hnext : d.next = ⟨d.year, d.month, d.day + 1⟩ := if_pos hlast
    rw [hnext]
    show yearStart d.marchYear + monthStart d.marchMonth + ((d.day + 1 : Nat) : Int) - 1 - _ = _
    omega
  · by_cases hfeb : d.month = 2
    · -- The next day begins a year in March.
      have hyear := daysInMonth_two d.year
      have hzero : monthStart 0 = 0 := rfl
      have hnext : d.next.marchYear = d.year ∧ d.next.marchMonth = 0 ∧ d.next.day = 1 := by
        unfold next
        rw [if_neg hlast, if_pos (by omega), hfeb]
        exact ⟨rfl, rfl, rfl⟩
      have hparts : d.marchYear = d.year - 1 ∧ d.marchMonth = 11 := by
        unfold marchYear marchMonth
        rw [hfeb]
        exact ⟨rfl, rfl⟩
      rw [hnext.1, hnext.2.1, hnext.2.2, hparts.1, hparts.2]
      rw [hfeb] at hlast hday
      omega
    · have hlength := daysInMonth_eq hmonth1 hmonth12 hfeb
      obtain ⟨hyear, hmonth, hfirst⟩ := marchParts_next hmonth1 hmonth12 hfeb hlast
      rw [hyear, hmonth, hfirst, hlength]
      omega

theorem year_next (d : Date) : d.year ≤ d.next.year ∧ d.next.year ≤ d.year + 1 := by
  unfold next
  repeat' split
  all_goals
    dsimp only
    omega

/-- **Dates are as many days apart as their numbers.** -/
theorem apart_iff (hd : d.isCivil = true) {n : Int} :
    Apart d n e ↔ e.isCivil = true ∧ e.dayNumber = d.dayNumber + n := by
  constructor
  · intro h
    induction h with
    | same => exact ⟨hd, by omega⟩
    | next h ih =>
      obtain ⟨hcivil, hnumber⟩ := ih
      rw [dayNumber_next hcivil]
      exact ⟨isCivil_next hcivil, by omega⟩
    | previous hcivil h ih =>
      obtain ⟨-, hnumber⟩ := ih
      rw [dayNumber_next hcivil] at hnumber
      exact ⟨hcivil, by omega⟩
  · rintro ⟨he, hnumber⟩
    induction n using Int.induction_on generalizing e with
    | zero =>
      rw [dayNumber_injective he hd (by omega)]
      exact .same
    | succ n ih =>
      have hcivil := isCivil_ofDayNumber (d.dayNumber + n)
      have hlast := ih hcivil (dayNumber_ofDayNumber _)
      have hnext : (ofDayNumber (d.dayNumber + n)).next = e := by
        refine dayNumber_injective (isCivil_next hcivil) he ?_
        rw [dayNumber_next hcivil, dayNumber_ofDayNumber]
        omega
      rw [← hnext]
      exact .next hlast
    | pred n ih =>
      refine .previous he (ih (isCivil_next he) ?_)
      rw [dayNumber_next he]
      omega

end ProbeGateway.Date
