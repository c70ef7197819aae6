import ProbeGateway.Time.Calendar

/-!
# Day numbers and dates

Every day number has a date that exists (`isCivil_ofDayNumber`), and that date has this number
(`dayNumber_ofDayNumber`).

1. Within a cycle the days are told apart by years that begin in March (`yearOfCycle_bounds`): a
   count that leaves out the leap days grows with the day (`ordinaryDays_mono`), and between the
   first and the last day of each year it stays within that year (`ordinaryDays_ends`).
2. Within such a year the days are told apart by months (`monthOfYear_bounds`), and only the year
   before a leap day has a day for it (`isLeapYear_of_yearStart`).
-/

namespace ProbeGateway.Date

/-! ## Years of a cycle -/

/-- About how many days of a cycle that are no leap days lie before a day of it. -/
def ordinaryDays (day : Int) : Int := day - day / 1460 + day / 36524 - day / 146096

/-- The first day of a year of a cycle. -/
def yearStart (year : Int) : Int := 365 * year + year / 4 - year / 100 + year / 400

theorem ordinaryDays_mono {a b : Int} (h : a ≤ b) : ordinaryDays a ≤ ordinaryDays b := by
  have hcycle (x : Int) : x / 146096 = x / 36524 / 4 := by omega
  have hcentury : a / 36524 ≤ b / 36524 := by omega
  unfold ordinaryDays
  rw [hcycle, hcycle]
  omega

theorem ordinaryDays_ends :
    ∀ year < 400, 365 * year ≤ ordinaryDays (yearStart (year : Nat)) ∧
      ordinaryDays (yearStart ((year : Nat) + 1) - 1) < 365 * year + 365 := by
  decide +kernel

/-- A day of a cycle lies in the year that is counted out for it. -/
theorem yearOfCycle_bounds {day : Int} (hlow : 0 ≤ day) (hhigh : day < cycleDays) :
    let year := ordinaryDays day / 365
    0 ≤ year ∧ year < 400 ∧ yearStart year ≤ day ∧ day < yearStart (year + 1) := by
  intro year
  have hday : day ≤ 146096 := by
    unfold cycleDays at hhigh
    omega
  have hfirst : 0 ≤ ordinaryDays day := ordinaryDays_mono hlow
  have hlast : ordinaryDays day ≤ 145999 := ordinaryDays_mono hday
  have hyear : 0 ≤ year ∧ year < 400 := by omega
  obtain ⟨n, hn⟩ := Int.eq_ofNat_of_zero_le hyear.1
  rw [hn]
  refine ⟨by omega, by omega, Int.not_lt.mp fun hlt => ?_, Int.not_le.mp fun hge => ?_⟩
  · -- The day would lie in the year before.
    cases n with
    | zero => exact absurd hlow (Int.not_le.mpr hlt)
    | succ n =>
      obtain ⟨-, hend⟩ := ordinaryDays_ends n (by omega)
      have hbefore : day ≤ yearStart ((n : Int) + 1) - 1 := Int.le_sub_one_of_lt hlt
      have := ordinaryDays_mono hbefore
      omega
  · -- The day would lie in the year after.
    by_cases hn399 : n = 399
    · subst hn399
      exact absurd hhigh (Int.not_lt.mpr hge)
    · obtain ⟨hnext, -⟩ := ordinaryDays_ends (n + 1) (by omega)
      rw [show ((n + 1 : Nat) : Int) = (n : Int) + 1 from rfl] at hnext
      have := ordinaryDays_mono hge
      omega

theorem yearStart_succ_le (year : Int) : yearStart (year + 1) ≤ yearStart year + 366 := by
  unfold yearStart
  omega

/-- Only a year with a day more than usual comes before a leap day. -/
theorem isLeapYear_of_yearStart {year : Int} (h : yearStart year + 365 < yearStart (year + 1))
    (cycle : Int) : isLeapYear (year + cycle * 400 + 1) = true := by
  have hmod : (year + 1) % 4 = 0 ∧ ((year + 1) % 100 ≠ 0 ∨ (year + 1) % 400 = 0) := by
    unfold yearStart at h
    omega
  unfold isLeapYear
  simp only [Bool.and_eq_true, Bool.or_eq_true, beq_iff_eq, bne_iff_ne]
  omega

/-! ## Months of a year -/

/-- The first day of a month of a year, March being month zero. -/
def monthStart (month : Int) : Int := (153 * month + 2) / 5

/-- A day of a year lies in the month that is counted out for it. -/
theorem monthOfYear_bounds {day : Int} (hlow : 0 ≤ day) (hhigh : day ≤ 365) :
    let month := (5 * day + 2) / 153
    0 ≤ month ∧ month < 12 ∧ monthStart month ≤ day ∧ day < monthStart (month + 1) := by
  intro month
  unfold monthStart
  omega

/-! ## The date of a day -/

/-- A day number taken apart: a cycle, a year of it and a month of that, each from March on, and a
day of the month. -/
theorem ofDayNumber_parts (n : Int) :
    ∃ cycle year month day : Int,
      (0 ≤ year ∧ year < 400) ∧ (0 ≤ month ∧ month < 12) ∧ 0 ≤ day ∧
      monthStart month + day < monthStart (month + 1) ∧
      yearStart year + monthStart month + day < yearStart (year + 1) ∧
      n + epochOffset = cycle * cycleDays + yearStart year + monthStart month + day ∧
      ofDayNumber n =
        if month < 10 then ⟨year + cycle * 400, (month + 3).toNat, (day + 1).toNat⟩
        else ⟨year + cycle * 400 + 1, (month - 9).toNat, (day + 1).toNat⟩ := by
  have hcycle : 0 < cycleDays := by decide
  have hlow := Int.emod_nonneg (n + epochOffset) (by omega : cycleDays ≠ 0)
  have hhigh := Int.emod_lt_of_pos (n + epochOffset) hcycle
  have hsplit := Int.mul_ediv_add_emod (n + epochOffset) cycleDays
  rw [Int.mul_comm] at hsplit
  obtain ⟨hyear0, hyear1, hstart, hend⟩ := yearOfCycle_bounds hlow hhigh
  generalize hy : ordinaryDays ((n + epochOffset) % cycleDays) / 365 = year at *
  have hlength := yearStart_succ_le year
  obtain ⟨hmonth0, hmonth1, hmstart, hmend⟩ :=
    @monthOfYear_bounds ((n + epochOffset) % cycleDays - yearStart year) (by omega) (by omega)
  generalize hm : (5 * ((n + epochOffset) % cycleDays - yearStart year) + 2) / 153 = month at *
  -- A year of a cycle has no multiple of 400 before it.
  have hfour : yearStart year = 365 * year + year / 4 - year / 100 := by
    unfold yearStart
    omega
  refine ⟨(n + epochOffset) / cycleDays, year, month,
    (n + epochOffset) % cycleDays - yearStart year - monthStart month,
    ⟨hyear0, hyear1⟩, ⟨hmonth0, hmonth1⟩, by omega, by omega, by omega, by omega, ?_⟩
  unfold ofDayNumber
  dsimp only
  rw [show ((n + epochOffset) % cycleDays - (n + epochOffset) % cycleDays / 1460 +
    (n + epochOffset) % cycleDays / 36524 - (n + epochOffset) % cycleDays / 146096) / 365 = year
    from hy, ← hfour, hm, show (153 * month + 2) / 5 = monthStart month from rfl]

/-- **The date of a day has the number of that day.** -/
theorem dayNumber_ofDayNumber (n : Int) : dayNumber (ofDayNumber n) = n := by
  obtain ⟨cycle, year, month, day, ⟨hyear0, hyear1⟩, ⟨hmonth0, hmonth1⟩, hday, -, -, hn, hdate⟩ :=
    ofDayNumber_parts n
  unfold epochOffset cycleDays yearStart monthStart at *
  rw [hdate]
  unfold dayNumber epochOffset cycleDays
  split
  · dsimp only
    rw [if_neg (by omega), if_neg (by omega)]
    omega
  · dsimp only
    rw [if_pos (by omega), if_pos (by omega)]
    omega

/-- **The date of a day exists.** -/
theorem isCivil_ofDayNumber (n : Int) : isCivil (ofDayNumber n) = true := by
  obtain ⟨cycle, year, month, day, ⟨hyear0, hyear1⟩, ⟨hmonth0, hmonth1⟩, hday, hmend, hyend, -,
    hdate⟩ := ofDayNumber_parts n
  rw [hdate]
  unfold isCivil daysInMonth
  simp only [Bool.and_eq_true, decide_eq_true_eq]
  unfold monthStart at *
  split
  · dsimp only
    refine ⟨⟨⟨by omega, by omega⟩, by omega⟩, ?_⟩
    rw [if_neg (by omega)]
    split <;> omega
  · dsimp only
    refine ⟨⟨⟨by omega, by omega⟩, by omega⟩, ?_⟩
    by_cases hfeb : month = 11
    · subst hfeb
      have hlength := yearStart_succ_le year
      rw [if_pos (by omega)]
      split
      · omega
      · next hleap =>
        -- The last day of the longest year would be a leap day.
        have hlong : ¬ yearStart year + 365 < yearStart (year + 1) :=
          fun h => hleap (isLeapYear_of_yearStart h cycle)
        omega
    · rw [if_neg (by omega)]
      split <;> omega

end ProbeGateway.Date
