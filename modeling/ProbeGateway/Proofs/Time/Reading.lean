import ProbeGateway.Proofs.Number.Digits
import ProbeGateway.Proofs.Time.Calendar
import ProbeGateway.Time.Reading

/-!
# Instants read back

The text of every instant that can be represented is read by the relaxed reader as that instant
(`parseRelaxed_text`).

1. A number that is written in digits is taken off the front of any text that goes on with something
   else (`number_padded`), whatever the width; so are the year (`signedYear_yearText`) and the
   fraction of the second (`optionalFraction_fractionText`).
2. The civil time of an instant, with its leap second, has that instant (`instant_civilOf`).
-/

namespace ProbeGateway

open Instant

/-! ## Blanks -/

theorem isBlank_of_isDigit {c : Char} (h : isDigit c = true) : isBlank c = false := by
  obtain ⟨hlow, hhigh⟩ := isDigit_iff.mp h
  unfold isBlank
  simp only [Bool.or_eq_false_iff, Bool.and_eq_false_iff, decide_eq_false_iff_not,
    beq_eq_false_iff_ne]
  omega

theorem skipBlanks_cons {c : Char} (h : isBlank c = false) (s : List Char) :
    skipBlanks (c :: s) = c :: s := by
  unfold skipBlanks
  rw [List.dropWhile_cons_of_neg (by simp [h])]

theorem skipBlanks_padded (width n : Nat) (rest : List Char) :
    skipBlanks (padded width n ++ rest) = padded width n ++ rest := by
  cases hp : padded width n with
  | nil => exact absurd hp (padded_ne_nil width n)
  | cons c s =>
    have hc : isDigit c = true := isDigit_of_mem_padded (by rw [hp]; exact .head _)
    exact skipBlanks_cons (isBlank_of_isDigit hc) _

namespace TimeReading

/-! ## Numbers -/

theorem takeWhile_isDigit {digits : List Char} (hd : ∀ d ∈ digits, isDigit d = true) {c : Char}
    (hc : isDigit c = false) (rest : List Char) :
    (digits ++ c :: rest).takeWhile isDigit = digits := by
  rw [List.takeWhile_append_of_pos hd, List.takeWhile_cons_of_neg (by simp [hc]), List.append_nil]

theorem takeWhile_isDigit_take {digits : List Char} (hd : ∀ d ∈ digits, isDigit d = true)
    {n : Nat} (hn : digits.length ≤ n) {c : Char} (hc : isDigit c = false) (rest : List Char) :
    ((digits ++ c :: rest).take n).takeWhile isDigit = digits := by
  rw [List.take_append, List.take_of_length_le hn]
  cases n - digits.length with
  | zero =>
    rw [List.take_zero, List.takeWhile_append_of_pos hd, List.takeWhile_nil, List.append_nil]
  | succ m => exact takeWhile_isDigit hd hc _

/-- Digits within the limit are read up to the first character that is no digit. -/
theorem number_digits {limit : Option Nat} {digits : List Char}
    (hd : ∀ d ∈ digits, isDigit d = true) (hne : digits ≠ [])
    (hlimit : ∀ n ∈ limit, digits.length ≤ n) {c : Char} (hc : isDigit c = false)
    (rest : List Char) :
    number limit (digits ++ c :: rest) = .ok (readDigits 0 digits, c :: rest) := by
  unfold number
  cases limit with
  | none =>
    dsimp only
    rw [takeWhile_isDigit hd hc, if_neg (by simp), if_neg (by simpa using hne), List.drop_left]
  | some n =>
    dsimp only
    rw [takeWhile_isDigit_take hd (hlimit n rfl) hc, if_neg (by simp),
      if_neg (by simpa using hne), List.drop_left]

theorem number_padded {limit : Option Nat} {width n : Nat}
    (hlimit : ∀ l ∈ limit, (padded width n).length ≤ l) {c : Char} (hc : isDigit c = false)
    (rest : List Char) :
    number limit (padded width n ++ c :: rest) = .ok (n, c :: rest) := by
  rw [number_digits (fun _ => isDigit_of_mem_padded) (padded_ne_nil _ _) hlimit hc,
    readDigits_padded]

/-- So is a number of two digits within its range, which blanks might stand before. -/
theorem number_two {n low high : Nat} (hn : n < 100) (hlow : low ≤ n) (hhigh : n ≤ high)
    {c : Char} (hc : isDigit c = false) (rest : List Char) :
    (number (some 2) (skipBlanks (padded 2 n ++ c :: rest)) >>= inRange low high) =
      .ok (n, c :: rest) := by
  have hlength : ∀ l ∈ some 2, (padded 2 n).length ≤ l := by
    rintro l ⟨⟩
    exact Nat.le_of_eq (length_padded (by omega) hn)
  rw [skipBlanks_padded, number_padded hlength hc]
  show inRange low high (n, c :: rest) = _
  exact if_pos ⟨hlow, hhigh⟩

theorem literal_skipBlanks {c : Char} (hc : isBlank c = false) (rest : List Char) :
    literal c (skipBlanks (c :: rest)) = .ok rest := by
  rw [skipBlanks_cons hc, literal, if_pos rfl]

/-! ## Years -/

/-- A year of any size is read back, with its sign or without. -/
theorem signedYear_yearText {year : Int} (hlow : -2147483648 ≤ year) (hhigh : year ≤ 2147483647)
    {c : Char} (hc : isDigit c = false) (rest : List Char) :
    signedYear (skipBlanks (yearText year ++ c :: rest)) = .ok (year, c :: rest) := by
  unfold yearText
  split
  · next hplain =>
    have hlength : ∀ l ∈ some 4, (padded 4 year.toNat).length ≤ l := by
      rintro l ⟨⟩
      exact Nat.le_of_eq (length_padded (by omega) (show year.toNat < 10000 by omega))
    have hnumber := number_padded (n := year.toNat) hlength hc rest
    rw [skipBlanks_padded]
    cases hp : padded 4 year.toNat with
    | nil => exact absurd hp (padded_ne_nil _ _)
    | cons d ds =>
      have hd : isDigit d = true := isDigit_of_mem_padded (by rw [hp]; exact .head _)
      rw [hp] at hnumber
      unfold signedYear
      -- A digit is no sign, so only the last case of the reader is left.
      split
      · next h =>
        rw [(List.cons.inj h).1] at hd
        exact absurd hd (by decide)
      · next h =>
        rw [(List.cons.inj h).1] at hd
        exact absurd hd (by decide)
      · rw [hnumber]
        show (if _ then _ else _) = _
        rw [if_pos (by omega), show ((year.toNat : Nat) : Int) = year by omega]
  · -- Behind a sign any number of digits is taken.
    have hnumber : number none (padded 4 year.natAbs ++ c :: rest) = .ok (year.natAbs, c :: rest) :=
      number_padded (by simp) hc rest
    split
    · next hneg =>
      rw [List.cons_append, skipBlanks_cons (by decide), signedYear, hnumber]
      show (if _ then _ else _) = _
      rw [if_pos (by omega), show -((year.natAbs : Nat) : Int) = year by omega]
    · next hneg =>
      rw [List.cons_append, skipBlanks_cons (by decide), signedYear, hnumber]
      show (if _ then _ else _) = _
      rw [if_pos (by omega), show ((year.natAbs : Nat) : Int) = year by omega]

/-! ## Fractions -/

/-- A fraction in some digits is read back in nanoseconds. -/
theorem optionalFraction_padded {width n : Nat} (hw : 0 < width) (hw9 : width ≤ 9)
    (hn : n < Nat.pow 10 width) {c : Char} (hc : isDigit c = false) (rest : List Char) :
    optionalFraction ('.' :: padded width n ++ c :: rest) =
      .ok (n * Nat.pow 10 (9 - width), c :: rest) := by
  have hlength : (padded width n).length = width := length_padded hw hn
  have hnumber : number (some 9) (padded width n ++ c :: rest) = .ok (n, c :: rest) :=
    number_padded (by rintro l ⟨⟩; omega) hc rest
  have hdigits : (((padded width n ++ c :: rest).take 9).takeWhile isDigit).length = width := by
    rw [takeWhile_isDigit_take (fun _ => isDigit_of_mem_padded) (by omega) hc, hlength]
  rw [List.cons_append, optionalFraction, fraction, hnumber]
  show Except.ok (n * Nat.pow 10 (9 - _), (c :: rest).dropWhile isDigit) = _
  rw [hdigits, List.dropWhile_cons_of_neg (by simp [hc])]

/-- The fraction of a second is read back, however many digits it has. -/
theorem optionalFraction_fractionText {nanos : Nat} (h : nanos < nanosPerSecond)
    (rest : List Char) :
    optionalFraction (fractionText nanos ++ 'Z' :: rest) = .ok (nanos, 'Z' :: rest) := by
  unfold nanosPerSecond at h
  have hz : isDigit 'Z' = false := by decide
  -- The text drops zeros three at a time, and the reader scales by as many as it misses.
  unfold fractionText
  split
  · next h0 =>
    rw [h0]
    rfl
  · split
    · next h6 =>
      have hlt : nanos / 1000000 < 1000 := by omega
      rw [optionalFraction_padded (by omega) (by omega) hlt hz]
      show Except.ok (nanos / 1000000 * 1000000, _) = _
      rw [show nanos / 1000000 * 1000000 = nanos by omega]
    · split
      · next h3 =>
        have hlt : nanos / 1000 < 1000000 := by omega
        rw [optionalFraction_padded (by omega) (by omega) hlt hz]
        show Except.ok (nanos / 1000 * 1000, _) = _
        rw [show nanos / 1000 * 1000 = nanos by omega]
      · rw [optionalFraction_padded (by omega) (by omega) h hz]
        show Except.ok (nanos * 1, _) = _
        rw [Nat.mul_one]

/-! ## The civil time of an instant -/

/-- The civil time of an instant in universal time. -/
def civilOf (t : Instant) : Civil where
  date := Date.ofDayNumber (t.seconds / secondsPerDay)
  hour := (t.seconds % secondsPerDay).toNat / 3600
  minute := (t.seconds % secondsPerDay).toNat / 60 % 60
  second := (t.seconds % secondsPerDay).toNat % 60 + if nanosPerSecond ≤ t.nanos then 1 else 0
  nanos := if nanosPerSecond ≤ t.nanos then t.nanos - nanosPerSecond else t.nanos
  offset := 0

variable {t : Instant}

theorem isRepresentable_iff :
    t.isRepresentable = true ↔
      (Date.minYear ≤ (civilOf t).date.year ∧ (civilOf t).date.year ≤ Date.maxYear) ∧
        t.nanos < 2 * nanosPerSecond := by
  unfold isRepresentable civilOf
  simp only [Bool.and_eq_true, decide_eq_true_eq]

theorem isSpelled_iff :
    t.isSpelled = true ↔ t.nanos < nanosPerSecond ∨ t.seconds % 60 = 59 := by
  unfold isSpelled
  simp only [Bool.or_eq_true, decide_eq_true_eq, beq_iff_eq]

/-- Second 60 is a leap second, and stands for the second before with more nanoseconds. -/
theorem leap_civilOf (h : t.isSpelled = true) :
    (if (civilOf t).second = 60 then 59 else (civilOf t).second) =
        (t.seconds % secondsPerDay).toNat % 60 ∧
      (civilOf t).nanos + (if (civilOf t).second = 60 then nanosPerSecond else 0) = t.nanos := by
  have hleap := isSpelled_iff.mp h
  unfold civilOf
  dsimp only
  by_cases hn : nanosPerSecond ≤ t.nanos
  · have hlast : (t.seconds % secondsPerDay).toNat % 60 = 59 := by
      unfold secondsPerDay
      omega
    rw [if_pos hn, if_pos hn, hlast, if_pos rfl, if_pos rfl]
    exact ⟨rfl, Nat.sub_add_cancel hn⟩
  · have hlt : (t.seconds % secondsPerDay).toNat % 60 ≠ 60 := by omega
    rw [if_neg hn, if_neg hn, Nat.add_zero, if_neg hlt, if_neg hlt]
    exact ⟨rfl, rfl⟩

/-- The civil time of an instant has just that instant. -/
theorem instant_civilOf (h : t.isRepresentable = true) (hspelled : t.isSpelled = true) :
    (civilOf t).instant = .ok t := by
  obtain ⟨⟨hmin, hmax⟩, -⟩ := isRepresentable_iff.mp h
  obtain ⟨hsecond, hnanos⟩ := leap_civilOf hspelled
  have hseconds : (civilOf t).date.dayNumber * secondsPerDay +
      (((civilOf t).hour * 3600 + (civilOf t).minute * 60 +
        (t.seconds % secondsPerDay).toNat % 60 : Nat) : Int) - (civilOf t).offset = t.seconds := by
    have hlow := Int.emod_nonneg t.seconds (show (86400 : Int) ≠ 0 by omega)
    have hday := Int.mul_ediv_add_emod t.seconds 86400
    unfold civilOf secondsPerDay
    dsimp only
    rw [Date.dayNumber_ofDayNumber]
    omega
  have hoffset : (civilOf t).offset = 0 := rfl
  have hcivil : (civilOf t).date.isCivil = true := Date.isCivil_ofDayNumber _
  have hyear : (Date.ofDayNumber (t.seconds / secondsPerDay)).year = (civilOf t).date.year := rfl
  unfold Civil.instant
  dsimp only
  rw [if_neg (not_not_intro ⟨hcivil, hmin, hmax⟩),
    hoffset, if_neg (by decide), hsecond, ← hoffset, hseconds, hyear, if_neg (by omega), hnanos]

/-! ## What the text of an instant spells -/

theorem isSpelled_carried (h : t.isRepresentable = true) :
    t.carried.isSpelled = true := by
  unfold carried
  split
  · assumption
  · have hnanos := (isRepresentable_iff.mp h).2
    have hrest : t.nanos - nanosPerSecond < nanosPerSecond := by omega
    exact isSpelled_iff.mpr (.inl hrest)

/-- The next second has the civil time that the carried nanoseconds had. -/
theorem civilOf_carried (h : t.isRepresentable = true) : civilOf t.carried = civilOf t := by
  unfold carried
  split
  · rfl
  next hspelled =>
  have hnanos := (isRepresentable_iff.mp h).2
  have hleap : ¬ (t.nanos < nanosPerSecond ∨ t.seconds % 60 = 59) :=
    fun hleap => hspelled (isSpelled_iff.mpr hleap)
  have hlong : nanosPerSecond ≤ t.nanos := by omega
  have hshort : ¬ nanosPerSecond ≤ t.nanos - nanosPerSecond := by omega
  have hday : (t.seconds + 1) / 86400 = t.seconds / 86400 := by omega
  have hhour : ((t.seconds + 1) % 86400).toNat / 3600 = (t.seconds % 86400).toNat / 3600 := by omega
  have hminute : ((t.seconds + 1) % 86400).toNat / 60 % 60 =
      (t.seconds % 86400).toNat / 60 % 60 := by omega
  have hsecond : ((t.seconds + 1) % 86400).toNat % 60 =
      (t.seconds % 86400).toNat % 60 + 1 := by omega
  unfold civilOf secondsPerDay
  dsimp only
  rw [if_neg hshort, if_neg hshort, if_pos hlong, if_pos hlong, hday, hhour, hminute, hsecond]

theorem isRepresentable_carried (h : t.isRepresentable = true) :
    t.carried.isRepresentable = true := by
  obtain ⟨hyear, hnanos⟩ := isRepresentable_iff.mp h
  rw [isRepresentable_iff, civilOf_carried h]
  refine ⟨hyear, ?_⟩
  unfold carried
  split
  · exact hnanos
  · dsimp only
    omega

/-- An instant that a text can spell is spelled by its own. -/
theorem carried_eq_self_iff : t.carried = t ↔ t.isSpelled = true := by
  unfold carried
  split
  next hspelled => exact iff_of_true rfl hspelled
  next hspelled =>
    refine iff_of_false (fun h => ?_) hspelled
    have hseconds : t.seconds + 1 = t.seconds := congrArg Instant.seconds h
    omega

/-! ## The text of an instant -/

/-- The text of an instant is its civil time, part by part. -/
theorem write_eq (t : Instant) :
    t.write = yearText (civilOf t).date.year ++ '-' :: (padded 2 (civilOf t).date.month ++
      '-' :: (padded 2 (civilOf t).date.day ++ 'T' :: (padded 2 (civilOf t).hour ++
      ':' :: (padded 2 (civilOf t).minute ++ ':' :: (padded 2 (civilOf t).second ++
      (fractionText (civilOf t).nanos ++ 'Z' :: [])))))) := by
  unfold Instant.write dateText timeText civilOf
  simp only [List.append_assoc, List.cons_append]

/-- What stands behind the seconds is no digit. -/
theorem fractionText_head (nanos : Nat) (rest : List Char) :
    ∃ c r, fractionText nanos ++ 'Z' :: rest = c :: r ∧ isDigit c = false := by
  unfold fractionText
  repeat' split
  all_goals exact ⟨_, _, rfl, by decide⟩

/-- The parts of a civil time lie in the ranges that a reader lets pass. -/
theorem civilOf_ranges (h : t.isRepresentable = true) :
    (1 ≤ (civilOf t).date.month ∧ (civilOf t).date.month ≤ 12) ∧
      (1 ≤ (civilOf t).date.day ∧ (civilOf t).date.day ≤ 31) ∧
      (civilOf t).hour ≤ 23 ∧ (civilOf t).minute ≤ 59 ∧ (civilOf t).second ≤ 60 ∧
      (civilOf t).nanos < nanosPerSecond := by
  have hnanos := (isRepresentable_iff.mp h).2
  have hcivil : (civilOf t).date.isCivil = true := Date.isCivil_ofDayNumber _
  unfold Date.isCivil at hcivil
  simp only [Bool.and_eq_true, decide_eq_true_eq] at hcivil
  obtain ⟨⟨⟨hmonth1, hmonth12⟩, hday1⟩, hdays⟩ := hcivil
  have hmost : Date.daysInMonth (civilOf t).date.year (civilOf t).date.month ≤ 31 := by
    unfold Date.daysInMonth
    repeat' split
    all_goals omega
  have hhigh := Int.emod_lt_of_pos t.seconds (show (0 : Int) < 86400 by omega)
  refine ⟨⟨hmonth1, hmonth12⟩, ⟨hday1, Nat.le_trans hdays hmost⟩, ?_⟩
  unfold civilOf secondsPerDay
  dsimp only
  refine ⟨by omega, by omega, ?_, ?_⟩
  · split <;> omega
  · split <;> omega

/-- The text of an instant spells another one if nanoseconds have to be carried. -/
theorem text_carried (h : t.isRepresentable = true) : t.carried.text = t.text := by
  unfold Instant.text
  rw [write_eq, write_eq, civilOf_carried h]

/-- **Every instant that a text can spell is read back from its text.** -/
theorem parseRelaxed_text (h : t.isRepresentable = true) (hspelled : t.isSpelled = true) :
    Instant.parseRelaxed t.text = .ok t := by
  obtain ⟨⟨hmin, hmax⟩, -⟩ := isRepresentable_iff.mp h
  obtain ⟨⟨hmonth1, hmonth12⟩, ⟨hday1, hday31⟩, hhour, hminute, hsecond, hnanos⟩ :=
    civilOf_ranges h
  unfold Date.minYear at hmin
  unfold Date.maxYear at hmax
  have hdash (rest : List Char) : literal '-' (skipBlanks ('-' :: rest)) = .ok rest :=
    literal_skipBlanks (by decide) rest
  have hcolon (rest : List Char) : literal ':' (skipBlanks (':' :: rest)) = .ok rest :=
    literal_skipBlanks (by decide) rest
  -- What stands behind the seconds may be a point or the mark of universal time.
  obtain ⟨c, behind, hbehind, hc⟩ := fractionText_head (civilOf t).nanos []
  unfold Instant.parseRelaxed Instant.text
  rw [String.toList_ofList, write_eq, relaxed,
    signedYear_yearText (by omega) (by omega) (by decide), ok_bind]
  dsimp only
  rw [hdash, ok_bind, number_two (by omega) hmonth1 hmonth12 (by decide), ok_bind]
  dsimp only
  rw [hdash, ok_bind, number_two (by omega) hday1 hday31 (by decide), ok_bind]
  dsimp only
  rw [show dateTimeMark ('T' :: _) = .ok _ from rfl, ok_bind,
    number_two (by omega) (by omega) hhour (by decide), ok_bind]
  dsimp only
  rw [hcolon, ok_bind, number_two (by omega) (by omega) hminute (by decide), ok_bind]
  dsimp only
  rw [hcolon, ok_bind, hbehind, number_two (by omega) (by omega) hsecond hc, ok_bind]
  dsimp only
  rw [← hbehind, optionalFraction_fractionText hnanos, ok_bind]
  exact instant_civilOf h hspelled

end TimeReading

end ProbeGateway
