import ProbeGateway.Proofs.Time.Days
import ProbeGateway.Proofs.Time.Reading

/-!
# Timestamps

A timestamp of RFC 3339 is told by its parts (`Timestamp`): a date and a time of day in local time,
and the offset of local from universal time. The strict reader reads the texts of timestamps that
are valid, and nothing else, and what it reads is the instant that the timestamp means
(`parseStrict_eq_ok_iff`): the days counted one by one, the local time less the offset. It goes
beyond RFC 3339 in one respect. There the hyphen stands for minus in front of an offset
(`Zone.standardMinus`), and the reader takes the minus sign U+2212 for it as well (`Zone.readMinus`).

1. Each reader of a part reads what the part is written as (`fixedNumber_eq_ok`, `offset_eq_ok`),
   and only the fraction takes as much as it can (`optionalFraction_pointed`).
2. The offset moves a date by at most one day (`Timestamp.Means.shown`), so the instant lies in a
   year that a calendar can hold (`Timestamp.instant_civil`).
-/

namespace ProbeGateway

open Instant

/-! ## Timestamps and their instants -/

/-- What a timestamp says of universal time: that it is local time, or how far local time is from
it. -/
inductive Zone
  | universal (letter : Char)
  | offset (sign : Char) (hours minutes : Nat)

namespace Zone

/-- The text of a zone. -/
def text : Zone → List Char
  | universal letter => [letter]
  | offset sign hours minutes => sign :: padded 2 hours ++ ':' :: padded 2 minutes

/-- How many seconds local time is ahead of universal time. -/
def seconds : Zone → Int
  | universal _ => 0
  | offset sign hours minutes =>
    if sign = '+' then hours * 3600 + minutes * 60 else -(hours * 3600 + minutes * 60)

/-- What stands for minus in RFC 3339. -/
def standardMinus : List Char := ['-']

/-- What the strict reader takes for minus. -/
def readMinus : List Char := ['-', '\u2212']

theorem mem_readMinus {c : Char} : c ∈ readMinus ↔ c = '-' ∨ c = '\u2212' := by simp [readMinus]

/-- The zones that have a text: the letter Z in either case, or a sign, hours and minutes. Which
characters stand for minus is not the same everywhere. -/
inductive IsWritten (minus : List Char) (hoursLimit : Nat) : Zone → Prop
  | universal {letter : Char} (h : letter = 'Z' ∨ letter = 'z') :
    IsWritten minus hoursLimit (universal letter)
  | offset {sign : Char} {hours minutes : Nat} (hsign : sign = '+' ∨ sign ∈ minus)
      (hhours : hours < hoursLimit) (hminutes : minutes < 60) :
    IsWritten minus hoursLimit (offset sign hours minutes)

theorem IsWritten.mono {minus minus' : List Char} {hoursLimit : Nat} {zone : Zone}
    (hsub : minus ⊆ minus') (h : zone.IsWritten minus hoursLimit) :
    zone.IsWritten minus' hoursLimit := by
  cases h with
  | universal h => exact .universal h
  | offset hsign hhours hminutes =>
    exact .offset (hsign.imp_right fun hmem => hsub hmem) hhours hminutes

/-- A zone is written with the signs of the reader if it is one of RFC 3339, or would be one with a
hyphen in place of U+2212. -/
theorem isWritten_readMinus_iff {hoursLimit : Nat} {zone : Zone} :
    zone.IsWritten readMinus hoursLimit ↔
      zone.IsWritten standardMinus hoursLimit ∨
        ∃ hours minutes, zone = .offset '\u2212' hours minutes ∧
          (Zone.offset '-' hours minutes).IsWritten standardMinus hoursLimit := by
  constructor
  · intro h
    cases h with
    | universal h => exact .inl (.universal h)
    | @offset sign hours minutes hsign hhours hminutes =>
      rcases hsign with rfl | hminus
      · exact .inl (.offset (.inl rfl) hhours hminutes)
      rcases mem_readMinus.mp hminus with rfl | rfl
      · exact .inl (.offset (.inr (.head _)) hhours hminutes)
      · exact .inr ⟨hours, minutes, rfl, .offset (.inr (.head _)) hhours hminutes⟩
  · rintro (h | ⟨hours, minutes, rfl, h⟩)
    · exact h.mono (List.cons_subset_cons _ (List.nil_subset _))
    · cases h with
      | offset _ hhours hminutes => exact .offset (.inr (.tail _ (.head _))) hhours hminutes

end Zone

/-- A date and time of day in some zone. -/
structure Timestamp where
  date : Date
  /-- What stands between date and time. -/
  mark : Char
  hour : Nat
  minute : Nat
  /-- From 0 to 60, where 60 is a leap second. -/
  second : Nat
  /-- The digits behind the point; without digits there is no point. -/
  fraction : List Char
  zone : Zone

namespace Timestamp

/-- The text of a fraction of a second. -/
def pointed : (fraction : List Char) → List Char
  | [] => []
  | digit :: digits => '.' :: digit :: digits

/-- The nanoseconds of a fraction: its first nine digits, with zeros for those it has not got. -/
def nanosOf (fraction : List Char) : Nat :=
  readDigits 0 ((fraction ++ List.replicate 9 '0').take 9)

/-- The text of a timestamp. -/
def text (p : Timestamp) : List Char :=
  padded 4 p.date.year.toNat ++ '-' :: (padded 2 p.date.month ++ '-' :: (padded 2 p.date.day ++
    p.mark :: (padded 2 p.hour ++ ':' :: (padded 2 p.minute ++ ':' :: (padded 2 p.second ++
    (pointed p.fraction ++ p.zone.text))))))

/-- A timestamp that has a text, of a date that may not exist. -/
structure IsWritten (minus : List Char) (p : Timestamp) : Prop where
  year : 0 ≤ p.date.year ∧ p.date.year ≤ 9999
  month : 1 ≤ p.date.month ∧ p.date.month ≤ 12
  day : 1 ≤ p.date.day ∧ p.date.day ≤ 31
  mark : p.mark = 'T' ∨ p.mark = 't' ∨ p.mark = ' '
  hour : p.hour ≤ 23
  minute : p.minute ≤ 59
  second : p.second ≤ 60
  fraction : ∀ c ∈ p.fraction, isDigit c = true
  zone : p.zone.IsWritten minus 24

/-- A timestamp of RFC 3339, as far as signs for minus are those of RFC 3339. -/
structure IsValid (minus : List Char) (p : Timestamp) : Prop extends p.IsWritten minus where
  civil : p.date.isCivil = true

/-- A timestamp of RFC 3339 is one for the reader. -/
theorem IsValid.read {p : Timestamp} (h : p.IsValid Zone.standardMinus) :
    p.IsValid Zone.readMinus :=
  ⟨{ h.toIsWritten with
      zone := h.zone.mono (List.cons_subset_cons _ (List.nil_subset _)) }, h.civil⟩

/-- The timestamps of the reader are those of RFC 3339, and those that would be with a hyphen in
place of U+2212. -/
theorem isValid_readMinus_iff {p : Timestamp} :
    p.IsValid Zone.readMinus ↔
      p.IsValid Zone.standardMinus ∨
        ∃ hours minutes, p.zone = .offset '\u2212' hours minutes ∧
          ({ p with zone := .offset '-' hours minutes } : Timestamp).IsValid
            Zone.standardMinus := by
  constructor
  · intro h
    rcases Zone.isWritten_readMinus_iff.mp h.zone with hzone | ⟨hours, minutes, hzone, hhyphen⟩
    · exact .inl ⟨{ h.toIsWritten with zone := hzone }, h.civil⟩
    · exact .inr ⟨hours, minutes, hzone, { h.toIsWritten with zone := hhyphen }, h.civil⟩
  · rintro (h | ⟨hours, minutes, hzone, h⟩)
    · exact h.read
    · exact ⟨{ h.toIsWritten with
        zone := Zone.isWritten_readMinus_iff.mpr (.inr ⟨hours, minutes, hzone, h.zone⟩) }, h.civil⟩

/-- The second of the day in local time; a leap second lies in the second before. -/
def localSecond (p : Timestamp) : Nat := p.hour * 3600 + p.minute * 60 + min p.second 59

/-- The instant that a timestamp stands for: the days from the first of January 1970, counted one by
one, and the local time of day less the offset. -/
structure Means (p : Timestamp) (t : Instant) : Prop where
  seconds : ∃ days, Date.Apart ⟨1970, 1, 1⟩ days p.date ∧
    t.seconds = days * 86400 + p.localSecond - p.zone.seconds
  nanos : t.nanos = nanosOf p.fraction + if p.second = 60 then nanosPerSecond else 0

end Timestamp

/-! ## Digits of a fixed width -/

theorem digitValue_lt {c : Char} (h : isDigit c = true) : digitValue c < 10 := by
  obtain ⟨-, hhigh⟩ := isDigit_iff.mp h
  show c.toNat - 0x30 < 10
  omega

theorem digitValue_injective {c d : Char} (hc : isDigit c = true) (hd : isDigit d = true)
    (h : digitValue c = digitValue d) : c = d := by
  obtain ⟨hlow, -⟩ := isDigit_iff.mp hc
  obtain ⟨hlow', -⟩ := isDigit_iff.mp hd
  have hvalue : c.toNat - 0x30 = d.toNat - 0x30 := h
  exact Char.toNat_inj.mp (by omega)

/-- Digits of one length that spell one number are the same. -/
theorem readDigits_injective {digits digits' : List Char} (hd : ∀ d ∈ digits, isDigit d = true)
    (hd' : ∀ d ∈ digits', isDigit d = true) (hlength : digits.length = digits'.length)
    {acc acc' : Nat} (h : readDigits acc digits = readDigits acc' digits') :
    acc = acc' ∧ digits = digits' := by
  induction digits generalizing digits' acc acc' with
  | nil =>
    cases digits' with
    | nil => exact ⟨h, rfl⟩
    | cons d' digits' => cases hlength
  | cons d digits ih =>
    cases digits' with
    | nil => cases hlength
    | cons d' digits' =>
      have hdigit := hd d (.head _)
      have hdigit' := hd' d' (.head _)
      obtain ⟨hacc, rfl⟩ := ih (fun c hc => hd c (.tail _ hc)) (fun c hc => hd' c (.tail _ hc))
        (Nat.succ.inj hlength) h
      have hacc : acc * 10 + digitValue d = acc' * 10 + digitValue d' := hacc
      have hlt := digitValue_lt hdigit
      have hlt' := digitValue_lt hdigit'
      have hvalue : digitValue d = digitValue d' := by omega
      rw [digitValue_injective hdigit hdigit' hvalue]
      exact ⟨by omega, rfl⟩

/-- Digits are their number in as many digits. -/
theorem padded_readDigits {digits : List Char} (hd : ∀ d ∈ digits, isDigit d = true)
    (hne : 0 < digits.length) : padded digits.length (readDigits 0 digits) = digits := by
  have hlt : readDigits 0 digits < Nat.pow 10 digits.length := by
    have := readDigits_lt hd 0
    omega
  exact (readDigits_injective (fun _ => isDigit_of_mem_padded) hd (length_padded hne hlt)
    (readDigits_padded _ _)).2

theorem padded_two {a b : Char} (ha : isDigit a = true) (hb : isDigit b = true) :
    padded 2 (digitValue a * 10 + digitValue b) = [a, b] := by
  have hd : ∀ d ∈ [a, b], isDigit d = true := by
    simp only [List.mem_cons, List.not_mem_nil, or_false]
    rintro d (rfl | rfl)
    · exact ha
    · exact hb
  have hpadded := padded_readDigits hd (by simp)
  have hvalue : readDigits 0 [a, b] = digitValue a * 10 + digitValue b := by
    show (0 * 10 + digitValue a) * 10 + digitValue b = _
    omega
  rwa [hvalue] at hpadded

theorem exists_padded_two {n : Nat} (h : n < 100) :
    ∃ a b, padded 2 n = [a, b] ∧ isDigit a = true ∧ isDigit b = true ∧
      digitValue a * 10 + digitValue b = n := by
  have hlength : (padded 2 n).length = 2 := length_padded (by omega) h
  have hvalue := readDigits_padded 2 n
  have hd : ∀ d ∈ padded 2 n, isDigit d = true := fun _ => isDigit_of_mem_padded
  match hp : padded 2 n with
  | [] => rw [hp] at hlength; cases hlength
  | [a] => rw [hp] at hlength; cases hlength
  | a :: b :: c :: r =>
    rw [hp] at hlength
    simp only [List.length_cons] at hlength
    omega
  | [a, b] =>
    rw [hp] at hvalue hd
    refine ⟨a, b, rfl, hd a (.head _), hd b (.tail _ (.head _)), ?_⟩
    rw [← hvalue]
    show _ = (0 * 10 + digitValue a) * 10 + digitValue b
    omega

namespace TimeReading

variable {s rest : List Char} {n low high : Nat}

/-! ## Readers of parts -/

theorem fixedNumber_eq_ok {width : Nat} (hw : 0 < width) :
    fixedNumber width s = .ok (n, rest) ↔ n < Nat.pow 10 width ∧ s = padded width n ++ rest := by
  unfold fixedNumber
  dsimp only
  constructor
  · intro h
    split at h
    · cases h
    next hlength =>
    split at h
    next hall =>
      cases h
      have hd := List.all_eq_true.mp hall
      have hlength : (s.take width).length = width := by
        rw [List.length_take] at hlength ⊢
        omega
      have hlt := readDigits_lt hd 0
      have hpadded := padded_readDigits hd (by omega)
      rw [hlength] at hlt hpadded
      refine ⟨by omega, ?_⟩
      rw [hpadded, List.take_append_drop]
    · cases h
  · rintro ⟨hn, rfl⟩
    have hlength := length_padded hw hn
    have htake : (padded width n ++ rest).take width = padded width n := List.take_left' hlength
    have hall : (padded width n).all isDigit = true :=
      List.all_eq_true.mpr fun _ => isDigit_of_mem_padded
    rw [htake, hlength, if_neg (Nat.lt_irrefl _), if_pos hall, readDigits_padded,
      List.drop_left' hlength]

theorem inRange_eq_ok {part part' : Nat × List Char} :
    inRange low high part = .ok part' ↔ (low ≤ part.1 ∧ part.1 ≤ high) ∧ part = part' := by
  unfold inRange
  split
  · next h => rw [Except.ok.injEq, and_iff_right h]
  · next h => exact iff_of_false nofun fun h' => h h'.1

/-- A number of two digits within its range. -/
theorem pairInRange_eq_ok (hhigh : high < 100) :
    (fixedNumber 2 s >>= inRange low high) = .ok (n, rest) ↔
      (low ≤ n ∧ n ≤ high) ∧ s = padded 2 n ++ rest := by
  have hlimit : Nat.pow 10 2 = 100 := rfl
  rw [bind_eq_ok]
  constructor
  · rintro ⟨part, hread, hrange⟩
    obtain ⟨hrange, rfl⟩ := inRange_eq_ok.mp hrange
    exact ⟨hrange, ((fixedNumber_eq_ok (by omega)).mp hread).2⟩
  · rintro ⟨hrange, hs⟩
    exact ⟨_, (fixedNumber_eq_ok (by omega)).mpr ⟨by omega, hs⟩, inRange_eq_ok.mpr ⟨hrange, rfl⟩⟩

theorem literal_eq_ok {c : Char} : literal c s = .ok rest ↔ s = c :: rest := by
  cases s with
  | nil => exact iff_of_false nofun nofun
  | cons d r =>
    rw [literal]
    split
    · next h => rw [Except.ok.injEq, List.cons.injEq, and_iff_right h]
    · next h => exact iff_of_false (by rintro ⟨⟩) fun h' => h (List.cons.inj h').1

theorem dateTimeMark_eq_ok :
    dateTimeMark s = .ok rest ↔ ∃ c, (c = 'T' ∨ c = 't' ∨ c = ' ') ∧ s = c :: rest := by
  cases s with
  | nil => exact iff_of_false nofun (by rintro ⟨_, -, ⟨⟩⟩)
  | cons d r =>
    rw [dateTimeMark]
    split
    · next h =>
      rw [Except.ok.injEq]
      constructor
      · rintro rfl
        exact ⟨d, or_left_comm.mp h, rfl⟩
      · rintro ⟨c, -, hs⟩
        exact (List.cons.inj hs).2
    · next h =>
      refine iff_of_false nofun ?_
      rintro ⟨c, hc, hs⟩
      rw [(List.cons.inj hs).1] at h
      exact h (or_left_comm.mp hc)

/-! ## Fractions -/

/-- The digits of a fraction, scaled to nine places. -/
theorem nanosOf_eq {digits : List Char} :
    Timestamp.nanosOf digits =
      readDigits 0 (digits.take 9) * Nat.pow 10 (9 - (digits.take 9).length) := by
  have hzeros : (List.replicate 9 '0').take (9 - digits.length) =
      List.replicate (9 - (digits.take 9).length) '0' := by
    rw [List.take_replicate, List.length_take]
    congr 1
    omega
  unfold Timestamp.nanosOf
  rw [List.take_append, hzeros, readDigits_eq_ofDigitChars, readDigits_eq_ofDigitChars,
    Nat.ofDigitChars_append, Nat.ofDigitChars_replicate_zero, Nat.mul_comm]
  rfl

/-- All digits at the front are the fraction. -/
theorem fraction_eq_ok {nanos : Nat} :
    fraction s = .ok (nanos, rest) ↔
      s.takeWhile isDigit ≠ [] ∧ nanos = Timestamp.nanosOf (s.takeWhile isDigit) ∧
        rest = s.dropWhile isDigit := by
  have hfirst : (s.take 9).takeWhile isDigit = (s.takeWhile isDigit).take 9 :=
    List.take_takeWhile.symm
  have hall : ∀ c ∈ s.takeWhile isDigit, isDigit c = true := List.all_eq_true.mp List.all_takeWhile
  have hsplit : s = (s.takeWhile isDigit).take 9 ++
      ((s.takeWhile isDigit).drop 9 ++ s.dropWhile isDigit) := by
    rw [← List.append_assoc, List.take_append_drop, List.takeWhile_append_dropWhile]
  -- The digits behind the ninth are dropped with what follows.
  have hbehind : (s.drop ((s.takeWhile isDigit).take 9).length).dropWhile isDigit =
      s.dropWhile isDigit := by
    calc (s.drop ((s.takeWhile isDigit).take 9).length).dropWhile isDigit
        = ((s.takeWhile isDigit).drop 9 ++ s.dropWhile isDigit).dropWhile isDigit := by
          refine congrArg (List.dropWhile isDigit) ?_
          exact (congrArg (List.drop _) hsplit).trans List.drop_left
      _ = ((s.takeWhile isDigit).take 9 ++
          ((s.takeWhile isDigit).drop 9 ++ s.dropWhile isDigit)).dropWhile isDigit :=
        (List.dropWhile_append_of_pos fun c hc => hall c (List.mem_of_mem_take hc)).symm
      _ = s.dropWhile isDigit := congrArg (List.dropWhile isDigit) hsplit.symm
  have hnone : (s.takeWhile isDigit).take 9 = [] ↔ s.takeWhile isDigit = [] := by
    rw [List.take_eq_nil_iff]
    exact or_iff_right (by omega)
  unfold fraction number
  dsimp only
  rw [hfirst, nanosOf_eq]
  cases s with
  | nil => exact iff_of_false nofun fun h => h.1 rfl
  | cons c r =>
    rw [List.isEmpty_cons, if_neg Bool.false_ne_true]
    by_cases hempty : (c :: r).takeWhile isDigit = []
    · rw [if_pos (by rw [hempty]; rfl)]
      exact iff_of_false nofun fun h => h.1 hempty
    · rw [if_neg (by rwa [List.isEmpty_iff, hnone]), ok_bind]
      dsimp only
      rw [hbehind, Except.ok.injEq, Prod.mk.injEq, and_iff_right hempty, eq_comm,
        @eq_comm _ rest]

/-- What is read as a fraction is the text of one. -/
theorem pointed_of_optionalFraction {nanos : Nat} (h : optionalFraction s = .ok (nanos, rest)) :
    ∃ digits, (∀ c ∈ digits, isDigit c = true) ∧ s = Timestamp.pointed digits ++ rest ∧
      nanos = Timestamp.nanosOf digits := by
  unfold optionalFraction at h
  split at h
  · next r =>
    obtain ⟨hne, rfl, rfl⟩ := fraction_eq_ok.mp h
    have hall : ∀ c ∈ r.takeWhile isDigit, isDigit c = true :=
      List.all_eq_true.mp List.all_takeWhile
    refine ⟨r.takeWhile isDigit, hall, ?_, rfl⟩
    have hpointed : Timestamp.pointed (r.takeWhile isDigit) = '.' :: r.takeWhile isDigit := by
      cases hr : r.takeWhile isDigit with
      | nil => exact absurd hr hne
      | cons d digits => rfl
    rw [hpointed, List.cons_append, List.takeWhile_append_dropWhile]
  · cases h
    exact ⟨[], nofun, rfl, rfl⟩

/-- The text of a fraction is read up to what is neither a digit nor a point. -/
theorem optionalFraction_pointed {digits : List Char} (hd : ∀ c ∈ digits, isDigit c = true)
    {c : Char} (hc : isDigit c = false) (hpoint : c ≠ '.') (rest : List Char) :
    optionalFraction (Timestamp.pointed digits ++ c :: rest) =
      .ok (Timestamp.nanosOf digits, c :: rest) := by
  cases digits with
  | nil =>
    show optionalFraction (c :: rest) = _
    unfold optionalFraction
    split
    · next h => exact absurd (List.cons.inj h).1 hpoint
    · rfl
  | cons d digits =>
    show fraction (d :: digits ++ c :: rest) = _
    have htake := takeWhile_isDigit hd hc rest
    have hdrop : (d :: digits ++ c :: rest).dropWhile isDigit = c :: rest := by
      rw [List.dropWhile_append_of_pos hd, List.dropWhile_cons_of_neg (by simp [hc])]
    rw [fraction_eq_ok, htake, hdrop]
    exact ⟨nofun, rfl, rfl⟩

/-! ## Zones -/

theorem digitPair_eq_ok {a b : Char} :
    digitPair s = .ok (a, b, rest) ↔
      (isDigit a = true ∧ isDigit b = true) ∧ s = a :: b :: rest := by
  unfold digitPair
  split
  · exact iff_of_false nofun fun h => nomatch h.2
  · split
    · exact iff_of_false nofun fun h => nomatch h.2
    · exact iff_of_false nofun fun h => nomatch h.2
  · next c d r =>
    rw [List.cons.injEq, List.cons.injEq]
    split
    · next h =>
      rw [Bool.and_eq_true] at h
      constructor
      · rintro ⟨⟩
        exact ⟨h, rfl, rfl, rfl⟩
      · rintro ⟨-, rfl, rfl, rfl⟩
        rfl
    · next h =>
      refine iff_of_false nofun ?_
      rintro ⟨⟨ha, hb⟩, rfl, rfl, -⟩
      exact h (by rw [ha, hb]; rfl)

/-- Two digits are a number below a hundred. -/
theorem digitPair_padded (hn : n < 100) (rest : List Char) :
    ∃ a b, digitPair (padded 2 n ++ rest) = .ok (a, b, rest) ∧
      digitValue a * 10 + digitValue b = n := by
  obtain ⟨a, b, hp, ha, hb, hvalue⟩ := exists_padded_two hn
  exact ⟨a, b, digitPair_eq_ok.mpr ⟨⟨ha, hb⟩, by rw [hp]; rfl⟩, hvalue⟩

theorem le_five_iff {c : Char} (h : isDigit c = true) : c ≤ '5' ↔ digitValue c ≤ 5 := by
  obtain ⟨hlow, -⟩ := isDigit_iff.mp h
  have hchar : c ≤ '5' ↔ c.toNat ≤ 0x35 := Iff.rfl
  have hvalue : digitValue c = c.toNat - 0x30 := rfl
  rw [hchar, hvalue]
  omega

theorem offsetMinutes_eq_ok :
    offsetMinutes s = .ok (n, rest) ↔ n < 60 ∧ s = padded 2 n ++ rest := by
  unfold offsetMinutes
  rw [bind_eq_ok]
  constructor
  · rintro ⟨⟨a, b, r⟩, hpair, h⟩
    obtain ⟨⟨ha, hb⟩, rfl⟩ := digitPair_eq_ok.mp hpair
    dsimp only at h
    split at h
    · next hle =>
      cases h
      have hle := (le_five_iff ha).mp hle
      have hlt := digitValue_lt hb
      rw [padded_two ha hb]
      exact ⟨by omega, rfl⟩
    · cases h
  · rintro ⟨hn, rfl⟩
    obtain ⟨a, b, hpair, hvalue⟩ := digitPair_padded (n := n) (by omega) rest
    obtain ⟨⟨ha, hb⟩, -⟩ := digitPair_eq_ok.mp hpair
    refine ⟨_, hpair, ?_⟩
    dsimp only
    rw [if_pos ((le_five_iff ha).mpr (by omega)), hvalue]

theorem unsignedOffset_eq_ok {seconds : Nat} :
    unsignedOffset (literal ':') s = .ok (seconds, rest) ↔
      ∃ hours minutes, hours < 100 ∧ minutes < 60 ∧
        s = padded 2 hours ++ ':' :: (padded 2 minutes ++ rest) ∧
        seconds = hours * 3600 + minutes * 60 := by
  unfold unsignedOffset
  rw [bind_eq_ok]
  constructor
  · rintro ⟨⟨a, b, r⟩, hpair, h⟩
    obtain ⟨⟨ha, hb⟩, rfl⟩ := digitPair_eq_ok.mp hpair
    dsimp only at h
    obtain ⟨r', hcolon, h⟩ := bind_eq_ok.mp h
    obtain ⟨⟨minutes, r''⟩, hminutes, h⟩ := bind_eq_ok.mp h
    cases h
    obtain ⟨hlt, rfl⟩ := offsetMinutes_eq_ok.mp hminutes
    obtain rfl := literal_eq_ok.mp hcolon
    have hlt := digitValue_lt ha
    have hlt' := digitValue_lt hb
    refine ⟨digitValue a * 10 + digitValue b, minutes, by omega, by assumption, ?_, rfl⟩
    rw [padded_two ha hb]
    rfl
  · rintro ⟨hours, minutes, hhours, hminutes, rfl, rfl⟩
    obtain ⟨a, b, hpair, hvalue⟩ := digitPair_padded hhours (':' :: (padded 2 minutes ++ rest))
    refine ⟨_, hpair, ?_⟩
    dsimp only
    rw [literal_eq_ok.mpr rfl, ok_bind, offsetMinutes_eq_ok.mpr ⟨hminutes, rfl⟩, ok_bind, hvalue]

theorem text_offset_append (sign : Char) (hours minutes : Nat) (rest : List Char) :
    (Zone.offset sign hours minutes).text ++ rest =
      sign :: (padded 2 hours ++ ':' :: (padded 2 minutes ++ rest)) := by
  rw [Zone.text, List.cons_append, List.cons_append, List.append_assoc, List.cons_append]

/-- An offset is the text of a zone, and its seconds. -/
theorem offset_eq_ok {seconds : Int} :
    offset (literal ':') s = .ok (seconds, rest) ↔
      ∃ zone : Zone, zone.IsWritten Zone.readMinus 100 ∧ s = zone.text ++ rest ∧
        seconds = zone.seconds := by
  constructor
  · intro h
    cases s with
    | nil => cases h
    | cons c r =>
      rw [offset] at h
      split at h
      · next hz =>
        cases h
        exact ⟨.universal c, .universal hz, rfl, rfl⟩
      next hz =>
      split at h
      · next hplus =>
        obtain ⟨⟨n, r'⟩, hread, h⟩ := bind_eq_ok.mp h
        cases h
        obtain ⟨hours, minutes, hhours, hminutes, rfl, rfl⟩ := unsignedOffset_eq_ok.mp hread
        refine ⟨.offset c hours minutes, .offset (.inl hplus) hhours hminutes,
          (text_offset_append c hours minutes rest).symm, ?_⟩
        rw [Zone.seconds, if_pos hplus]
        omega
      next hplus =>
      split at h
      · next hminus =>
        obtain ⟨⟨n, r'⟩, hread, h⟩ := bind_eq_ok.mp h
        cases h
        obtain ⟨hours, minutes, hhours, hminutes, rfl, rfl⟩ := unsignedOffset_eq_ok.mp hread
        refine ⟨.offset c hours minutes,
          .offset (.inr (Zone.mem_readMinus.mpr hminus)) hhours hminutes,
          (text_offset_append c hours minutes rest).symm, ?_⟩
        rw [Zone.seconds, if_neg hplus]
        omega
      · cases h
  · rintro ⟨zone, hzone, rfl, rfl⟩
    cases hzone with
    | universal hz => exact if_pos hz
    | @offset sign hours minutes hsign hhours hminutes =>
      have hread : unsignedOffset (literal ':')
          (padded 2 hours ++ ':' :: (padded 2 minutes ++ rest)) =
            .ok (hours * 3600 + minutes * 60, rest) :=
        unsignedOffset_eq_ok.mpr ⟨hours, minutes, hhours, hminutes, rfl, rfl⟩
      have hsign : sign = '+' ∨ sign = '-' ∨ sign = '\u2212' := hsign.imp_right Zone.mem_readMinus.mp
      have hnever : ¬ (sign = 'Z' ∨ sign = 'z') := by
        rcases hsign with rfl | rfl | rfl
        all_goals decide
      rw [text_offset_append, offset, if_neg hnever, Zone.seconds, hread]
      split
      · rfl
      · next hplus =>
        rw [if_pos (hsign.resolve_left hplus)]
        rfl

end TimeReading

namespace Zone

/-- The limit of an offset is a limit of its hours. -/
theorem isWritten_iff {minus : List Char} {zone : Zone} :
    zone.IsWritten minus 24 ↔ zone.IsWritten minus 100 ∧
      ¬ (zone.seconds < -TimeReading.maxStrictOffset ∨
        TimeReading.maxStrictOffset < zone.seconds) := by
  unfold TimeReading.maxStrictOffset
  constructor
  · intro h
    cases h with
    | universal h =>
      refine ⟨.universal h, ?_⟩
      rw [seconds]
      omega
    | offset hsign hhours hminutes =>
      refine ⟨.offset hsign (by omega) hminutes, ?_⟩
      rw [seconds]
      split <;> omega
  · rintro ⟨h, hlimit⟩
    cases h with
    | universal h => exact .universal h
    | offset hsign hhours hminutes =>
      refine .offset hsign ?_ hminutes
      rw [seconds] at hlimit
      split at hlimit <;> omega

theorem seconds_bounds {minus : List Char} {zone : Zone} (h : zone.IsWritten minus 24) :
    -86400 < zone.seconds ∧ zone.seconds < 86400 := by
  have hlimit := (isWritten_iff.mp h).2
  unfold TimeReading.maxStrictOffset at hlimit
  omega

/-- A zone begins with what is neither a digit nor a point. -/
theorem text_head {zone : Zone} {limit : Nat} (h : zone.IsWritten readMinus limit) :
    ∃ c r, zone.text = c :: r ∧ isDigit c = false ∧ c ≠ '.' := by
  cases h with
  | universal h =>
    refine ⟨_, _, rfl, ?_⟩
    rcases h with rfl | rfl
    all_goals decide
  | offset hsign =>
    refine ⟨_, _, rfl, ?_⟩
    rcases hsign.imp_right mem_readMinus.mp with rfl | rfl | rfl
    all_goals decide

end Zone

namespace Timestamp

variable {p : Timestamp} {t : Instant} {minus : List Char}

/-! ## The strict reader -/

/-- The civil time of a timestamp. -/
def civil (p : Timestamp) : TimeReading.Civil :=
  ⟨p.date, p.hour, p.minute, p.second, nanosOf p.fraction, p.zone.seconds⟩

open TimeReading

theorem timestamp_of_strict {s : List Char} (h : strict s = .ok t) :
    ∃ p : Timestamp, p.IsWritten Zone.readMinus ∧ s = p.text ∧ p.civil.instant = .ok t := by
  unfold strict at h
  rw [bind_eq_ok] at h
  obtain ⟨⟨year, s₁⟩, hyear, h⟩ := h
  rw [bind_eq_ok] at h
  obtain ⟨s₂, hdash, h⟩ := h
  rw [bind_eq_ok] at h
  obtain ⟨⟨month, s₃⟩, hmonth, h⟩ := h
  rw [bind_eq_ok] at h
  obtain ⟨s₄, hdash', h⟩ := h
  rw [bind_eq_ok] at h
  obtain ⟨⟨day, s₅⟩, hday, h⟩ := h
  rw [bind_eq_ok] at h
  obtain ⟨s₆, hmark, h⟩ := h
  rw [bind_eq_ok] at h
  obtain ⟨⟨hour, s₇⟩, hhour, h⟩ := h
  rw [bind_eq_ok] at h
  obtain ⟨s₈, hcolon, h⟩ := h
  rw [bind_eq_ok] at h
  obtain ⟨⟨minute, s₉⟩, hminute, h⟩ := h
  rw [bind_eq_ok] at h
  obtain ⟨s₁₀, hcolon', h⟩ := h
  rw [bind_eq_ok] at h
  obtain ⟨⟨second, s₁₁⟩, hsecond, h⟩ := h
  rw [bind_eq_ok] at h
  obtain ⟨⟨nanos, s₁₂⟩, hfraction, h⟩ := h
  rw [bind_eq_ok] at h
  obtain ⟨⟨seconds, s₁₃⟩, hoffset, h⟩ := h
  dsimp only at *
  split at h
  · cases h
  next hlimit =>
  split at h
  · cases h
  next hend =>
  -- From the end of the text to its front, each part is put in for what was read as it.
  have hend : s₁₃ = [] := by simpa using hend
  obtain ⟨zone, hzone, rfl, rfl⟩ := offset_eq_ok.mp hoffset
  obtain ⟨digits, hdigits, rfl, rfl⟩ := pointed_of_optionalFraction hfraction
  obtain ⟨hseconds, rfl⟩ := (pairInRange_eq_ok (by omega)).mp hsecond
  obtain rfl := literal_eq_ok.mp hcolon'
  obtain ⟨hminutes, rfl⟩ := (pairInRange_eq_ok (by omega)).mp hminute
  obtain rfl := literal_eq_ok.mp hcolon
  obtain ⟨hhours, rfl⟩ := (pairInRange_eq_ok (by omega)).mp hhour
  obtain ⟨mark, hmarks, rfl⟩ := dateTimeMark_eq_ok.mp hmark
  obtain ⟨hdays, rfl⟩ := (pairInRange_eq_ok (by omega)).mp hday
  obtain rfl := literal_eq_ok.mp hdash'
  obtain ⟨hmonths, rfl⟩ := (pairInRange_eq_ok (by omega)).mp hmonth
  obtain rfl := literal_eq_ok.mp hdash
  obtain ⟨hyears, rfl⟩ := (fixedNumber_eq_ok (by omega)).mp hyear
  have hyears : year < 10000 := hyears
  have hyears : (0 : Int) ≤ year ∧ (year : Int) ≤ 9999 := by omega
  refine ⟨⟨⟨year, month, day⟩, mark, hour, minute, second, digits, zone⟩, ?_, ?_, h⟩
  · exact ⟨hyears, hmonths, hdays, hmarks, hhours.2, hminutes.2, hseconds.2, hdigits,
      Zone.isWritten_iff.mpr ⟨hzone, hlimit⟩⟩
  · unfold text
    rw [hend, List.append_nil]
    rfl

theorem strict_text (h : p.IsWritten Zone.readMinus) : strict p.text = p.civil.instant := by
  obtain ⟨hzone, hlimit⟩ := Zone.isWritten_iff.mp h.zone
  obtain ⟨c, r, hhead, hdigit, hpoint⟩ := Zone.text_head hzone
  have hoffset : offset (literal ':') p.zone.text = .ok (p.zone.seconds, []) :=
    offset_eq_ok.mpr ⟨p.zone, hzone, (List.append_nil _).symm, rfl⟩
  have hfraction : optionalFraction (pointed p.fraction ++ p.zone.text) =
      .ok (nanosOf p.fraction, p.zone.text) := by
    rw [hhead]
    exact optionalFraction_pointed h.fraction hdigit hpoint r
  have hpair {low high n : Nat} (hhigh : high < 100) (hlow : low ≤ n) (hn : n ≤ high)
      (rest : List Char) : (fixedNumber 2 (padded 2 n ++ rest) >>= inRange low high) =
        .ok (n, rest) := (pairInRange_eq_ok hhigh).mpr ⟨⟨hlow, hn⟩, rfl⟩
  have hliteral (c : Char) (rest : List Char) : literal c (c :: rest) = .ok rest :=
    literal_eq_ok.mpr rfl
  have hyear (rest : List Char) : fixedNumber 4 (padded 4 p.date.year.toNat ++ rest) =
      .ok (p.date.year.toNat, rest) := by
    refine (fixedNumber_eq_ok (by omega)).mpr ⟨?_, rfl⟩
    have hlast := h.year.2
    show p.date.year.toNat < 10000
    omega
  rw [strict, text, hyear, ok_bind]
  dsimp only
  rw [hliteral, ok_bind, hpair (by omega) h.month.1 h.month.2, ok_bind]
  dsimp only
  rw [hliteral, ok_bind, hpair (by omega) h.day.1 h.day.2, ok_bind]
  dsimp only
  rw [dateTimeMark_eq_ok.mpr ⟨_, h.mark, rfl⟩, ok_bind,
    hpair (by omega) (Nat.zero_le _) h.hour, ok_bind]
  dsimp only
  rw [hliteral, ok_bind, hpair (by omega) (Nat.zero_le _) h.minute, ok_bind]
  dsimp only
  rw [hliteral, ok_bind, hpair (by omega) (Nat.zero_le _) h.second, ok_bind]
  dsimp only
  rw [hfraction, ok_bind]
  dsimp only
  rw [hoffset, ok_bind]
  dsimp only
  rw [if_neg hlimit, if_neg (by simp), Int.toNat_of_nonneg h.year.1]
  rfl

/-! ## The characters of a timestamp -/

theorem isAscii_of_isDigit {c : Char} (h : isDigit c = true) : c.toNat < 0x80 := by
  have hhigh := (isDigit_iff.mp h).2
  omega

theorem isAscii_padded {width n : Nat} {c : Char} (h : c ∈ padded width n) : c.toNat < 0x80 :=
  isAscii_of_isDigit (isDigit_of_mem_padded h)

theorem isAscii_pointed {fraction : List Char} (h : ∀ c ∈ fraction, isDigit c = true) :
    ∀ c ∈ pointed fraction, c.toNat < 0x80 := by
  cases fraction with
  | nil => exact nofun
  | cons digit digits =>
    exact List.forall_mem_cons.mpr ⟨by decide, fun c hc => isAscii_of_isDigit (h c hc)⟩

theorem isAscii_zone {zone : Zone} {limit : Nat} (h : zone.IsWritten Zone.standardMinus limit) :
    ∀ c ∈ zone.text, c.toNat < 0x80 := by
  cases h with
  | universal h =>
    refine List.forall_mem_singleton.mpr ?_
    rcases h with rfl | rfl
    all_goals decide
  | @offset sign hours minutes hsign =>
    rw [Zone.text, List.cons_append]
    refine List.forall_mem_cons.mpr ⟨?_, List.forall_mem_append.mpr
      ⟨fun c => isAscii_padded, List.forall_mem_cons.mpr ⟨by decide, fun c => isAscii_padded⟩⟩⟩
    rcases hsign.imp_right List.mem_singleton.mp with rfl | rfl
    all_goals decide

/-- A timestamp of RFC 3339 has no characters beyond ASCII. -/
theorem IsValid.text_ascii (h : p.IsValid Zone.standardMinus) : ∀ c ∈ p.text, c.toNat < 0x80 := by
  have hmark : p.mark.toNat < 0x80 := by
    rcases h.mark with hmark | hmark | hmark
    all_goals
      rw [hmark]
      decide
  unfold text
  simp only [List.forall_mem_append, List.forall_mem_cons]
  refine ⟨fun c => isAscii_padded, by decide, fun c => isAscii_padded, by decide,
    fun c => isAscii_padded, hmark, fun c => isAscii_padded, by decide, fun c => isAscii_padded,
    by decide, fun c => isAscii_padded, isAscii_pointed h.fraction, isAscii_zone h.zone⟩

/-! ## The instant of a timestamp -/

/-- A timestamp of a date that exists means one instant. -/
theorem means_iff (hcivil : p.date.isCivil = true) :
    p.Means t ↔
      t = ⟨p.date.dayNumber * 86400 + p.localSecond - p.zone.seconds,
        nanosOf p.fraction + if p.second = 60 then nanosPerSecond else 0⟩ := by
  have hepoch : (⟨1970, 1, 1⟩ : Date).isCivil = true := by decide
  have hzero : (⟨1970, 1, 1⟩ : Date).dayNumber = 0 := by decide
  obtain ⟨seconds, nanos⟩ := t
  rw [Instant.mk.injEq]
  constructor
  · rintro ⟨⟨days, hapart, hseconds⟩, hnanos⟩
    have hdays := ((Date.apart_iff hepoch).mp hapart).2
    rw [hzero, Int.zero_add] at hdays
    rw [hdays]
    exact ⟨hseconds, hnanos⟩
  · rintro ⟨hseconds, hnanos⟩
    have hapart : Date.Apart ⟨1970, 1, 1⟩ p.date.dayNumber p.date :=
      (Date.apart_iff hepoch).mpr ⟨hcivil, by rw [hzero, Int.zero_add]⟩
    exact ⟨⟨_, hapart, hseconds⟩, hnanos⟩

theorem exists_means (hcivil : p.date.isCivil = true) : ∃ t, ∀ t', p.Means t' ↔ t' = t :=
  ⟨_, fun _ => means_iff hcivil⟩

/-- Zeros at the end of a fraction add nothing to it. -/
theorem nanosOf_append_zeros (fraction : List Char) (zeros : Nat) :
    nanosOf (fraction ++ List.replicate zeros '0') = nanosOf fraction := by
  have htake (n : Nat) (hn : 9 ≤ n) : (fraction ++ List.replicate n '0').take 9 =
      fraction.take 9 ++ List.replicate (9 - fraction.length) '0' := by
    rw [List.take_append, List.take_replicate, Nat.min_eq_left (by omega)]
  unfold nanosOf
  rw [List.append_assoc, List.replicate_append_replicate, htake _ (by omega), htake 9 (by omega)]

/-- The instant does not hang on the mark, on zeros at the end of the fraction, or on how the zone
is written. -/
theorem Means.respelled (h : p.Means t) (mark : Char) (zeros : Nat) {zone : Zone}
    (hzone : zone.seconds = p.zone.seconds) :
    ({ p with mark, fraction := p.fraction ++ List.replicate zeros '0', zone } : Timestamp).Means
      t where
  seconds := by
    rw [hzone]
    exact h.seconds
  nanos := by
    rw [nanosOf_append_zeros]
    exact h.nanos

theorem nanosOf_lt {fraction : List Char} (h : ∀ c ∈ fraction, isDigit c = true) :
    nanosOf fraction < nanosPerSecond := by
  have hall : ∀ c ∈ (fraction ++ List.replicate 9 '0').take 9, isDigit c = true := by
    intro c hc
    rcases List.mem_append.mp (List.mem_of_mem_take hc) with hdigit | hzero
    · exact h c hdigit
    · rw [(List.mem_replicate.mp hzero).2]
      rfl
  have hlength : ((fraction ++ List.replicate 9 '0').take 9).length = 9 := by
    rw [List.length_take, List.length_append, List.length_replicate]
    omega
  have hlt := readDigits_lt hall 0
  rw [hlength] at hlt
  exact hlt

/-- Only a leap second has the nanoseconds of one. -/
theorem Means.leap_iff (hp : p.IsValid minus) (h : p.Means t) :
    nanosPerSecond ≤ t.nanos ↔ p.second = 60 := by
  have hnanos := nanosOf_lt hp.fraction
  rw [h.nanos]
  split
  · next hsecond => exact iff_of_true (Nat.le_add_left _ _) hsecond
  · next hsecond => exact iff_of_false (by omega) hsecond

/-- The date and the second of the day in universal time that a timestamp comes to: the offset moves
the time of day within its day, or into the day after or before. -/
structure Carries (p : Timestamp) (date : Date) (second : Nat) : Prop where
  moved : ∃ days : Int, (-1 ≤ days ∧ days ≤ 1) ∧ Date.Apart p.date days date ∧
    (p.localSecond : Int) - p.zone.seconds = days * 86400 + second
  second_lt : second < 86400

theorem localSecond_lt (h : p.IsWritten minus) : p.localSecond < 86400 := by
  have hhour := h.hour
  have hminute := h.minute
  unfold localSecond
  omega

theorem Means.carries (hp : p.IsValid minus) (h : p.Means t) :
    p.Carries (Date.ofDayNumber (t.seconds / secondsPerDay))
      (t.seconds % secondsPerDay).toNat := by
  have hlocal := localSecond_lt hp.toIsWritten
  have hzone := Zone.seconds_bounds hp.zone
  rw [means_iff hp.civil] at h
  have hseconds : t.seconds = p.date.dayNumber * 86400 + p.localSecond - p.zone.seconds := by rw [h]
  unfold secondsPerDay
  refine ⟨⟨t.seconds / 86400 - p.date.dayNumber, by omega, ?_, by omega⟩, by omega⟩
  rw [Date.apart_iff hp.civil, Date.dayNumber_ofDayNumber]
  exact ⟨Date.isCivil_ofDayNumber _, by omega⟩

/-- A move by a day changes the year by one at most. -/
theorem Carries.year_bounds (hp : p.IsValid minus) {date : Date} {second : Nat}
    (h : p.Carries date second) : p.date.year - 1 ≤ date.year ∧ date.year ≤ p.date.year + 1 := by
  obtain ⟨⟨days, hbounds, hapart, -⟩, -⟩ := h
  obtain ⟨hcivil, hnumber⟩ := (Date.apart_iff hp.civil).mp hapart
  have hdays : days = -1 ∨ days = 0 ∨ days = 1 := by omega
  rcases hdays with rfl | rfl | rfl
  · have hnext : date.next = p.date := by
      refine Date.dayNumber_injective (Date.isCivil_next hcivil) hp.civil ?_
      rw [Date.dayNumber_next hcivil]
      omega
    rw [← hnext]
    have := Date.year_next date
    omega
  · rw [Date.dayNumber_injective hcivil hp.civil (by omega)]
    omega
  · have hnext : date = p.date.next := by
      refine Date.dayNumber_injective hcivil (Date.isCivil_next hp.civil) ?_
      rw [Date.dayNumber_next hp.civil]
      omega
    rw [hnext]
    have := Date.year_next p.date
    omega

/-- The instant of a timestamp is what it means, if its date exists. -/
theorem instant_civil (h : p.IsWritten minus) :
    p.civil.instant = .ok t ↔ p.date.isCivil = true ∧ p.Means t := by
  have hyear := h.year
  by_cases hcivil : p.date.isCivil = true
  · have hp : p.IsValid minus := ⟨h, hcivil⟩
    have hmeans := (means_iff (t := ⟨_, _⟩) hcivil).mpr rfl
    have hresult := (hmeans.carries hp).year_bounds hp
    have hzone := Zone.seconds_bounds h.zone
    have hsecond : (if p.second = 60 then 59 else p.second) = min p.second 59 := by
      have := h.second
      split <;> omega
    have hyear : Date.minYear ≤ p.date.year ∧ p.date.year ≤ Date.maxYear := by
      unfold Date.minYear Date.maxYear
      omega
    rw [and_iff_right hcivil, means_iff hcivil]
    unfold civil Civil.instant secondsPerDay at *
    dsimp only at *
    rw [hsecond, show p.hour * 3600 + p.minute * 60 + min p.second 59 = p.localSecond from rfl,
      if_neg (not_not_intro ⟨hcivil, hyear⟩), if_neg (by omega),
      if_neg (by unfold Date.minYear Date.maxYear; omega), Except.ok.injEq, eq_comm]
  · refine iff_of_false (fun hread => ?_) fun h => hcivil h.1
    unfold civil Civil.instant at hread
    dsimp only at hread
    rw [if_pos fun h => hcivil h.1] at hread
    cases hread

/-- **What is read as a timestamp is one, and the instant is what it means.** -/
theorem parseStrict_eq_ok_iff {s : String} :
    Instant.parseStrict s = .ok t ↔
      ∃ p : Timestamp, p.IsValid Zone.readMinus ∧ s.toList = p.text ∧ p.Means t := by
  unfold Instant.parseStrict
  constructor
  · intro h
    obtain ⟨p, hp, htext, hread⟩ := timestamp_of_strict h
    obtain ⟨hcivil, hmeans⟩ := (instant_civil hp).mp hread
    exact ⟨p, ⟨hp, hcivil⟩, htext, hmeans⟩
  · rintro ⟨p, hp, htext, hmeans⟩
    rw [htext, strict_text hp.toIsWritten]
    exact (instant_civil hp.toIsWritten).mpr ⟨hp.civil, hmeans⟩

end Timestamp

end ProbeGateway
