import ProbeGateway.Proofs.Json.Elements

/-!
# What is read is skipped

The pieces of a value without brackets are skipped to where reading leaves them, if they can be
read.

1. A string is skipped escape by escape. A pair of escapes that is read as one character is skipped
   in two steps (`skipEscape_of_readEscape`).
2. A number that is read is skipped to the same place (`skipNumber_of_readNumber`).
-/

namespace ProbeGateway.Json

variable {input rest : Bytes}

/-! ## Strings -/

theorem skipEscape_unicode {n : Nat} (h : readHex4 input = .ok (n, rest)) :
    skipEscape (0x75 :: input) = .ok rest := by
  rw [skipEscape, if_neg (by decide), if_pos rfl, h, ok_bind]

theorem skipEscape_of_readLowSurrogate {high : Nat} {c : Char}
    (h : readLowSurrogate high input = .ok (c, rest)) :
    ∃ tail, input = 0x5C :: tail ∧ skipEscape tail = .ok rest := by
  unfold readLowSurrogate at h
  split at h
  · cases h
  · next a tail =>
    split at h
    · cases h
    · next ha =>
      refine ⟨tail, congrArg (· :: tail) (not_not.mp ha), ?_⟩
      split at h
      · cases h
      · next b digits =>
        split at h
        · cases h
        · next hb =>
          obtain ⟨⟨low, behind⟩, hdigits, h⟩ := bind_eq_ok.mp h
          dsimp only at h
          split at h
          · obtain ⟨-, rfl⟩ := Prod.mk.inj (Except.ok.inj h)
            rw [not_not.mp hb]
            exact skipEscape_unicode hdigits
          · cases h

/-- An escape that is read is skipped in one step, or in two if it is a pair. -/
theorem skipEscape_of_readEscape {c : Char} (h : readEscape input = .ok (c, rest)) :
    skipEscape input = .ok rest ∨
      ∃ tail, skipEscape input = .ok (0x5C :: tail) ∧ skipEscape tail = .ok rest := by
  unfold readEscape at h
  split at h
  · cases h
  · next b behind =>
    by_cases hsimple : b = 0x22 ∨ b = 0x5C ∨ b = 0x2F ∨ b = 0x62 ∨ b = 0x66 ∨ b = 0x6E ∨
        b = 0x72 ∨ b = 0x74
    · left
      rw [skipEscape, if_pos hsimple]
      rcases hsimple with rfl | rfl | rfl | rfl | rfl | rfl | rfl | rfl
      all_goals
        cases h
        rfl
    · simp only [not_or] at hsimple
      obtain ⟨h₁, h₂, h₃, h₄, h₅, h₆, h₇, h₈⟩ := hsimple
      rw [if_neg h₁, if_neg h₂, if_neg h₃, if_neg h₄, if_neg h₅, if_neg h₆, if_neg h₇,
        if_neg h₈] at h
      split at h
      · next hb =>
        subst hb
        obtain ⟨⟨n, mid⟩, hdigits, h⟩ := bind_eq_ok.mp h
        have hskip := skipEscape_unicode hdigits
        dsimp only at h
        split at h
        · cases h
        · split at h
          · obtain ⟨tail, rfl, htail⟩ := skipEscape_of_readLowSurrogate h
            exact .inr ⟨tail, hskip, htail⟩
          · cases h
            exact .inl hskip
      · cases h

theorem readStringOctets_of_readString {s : String} (h : readString input = .ok (s, rest)) :
    ∃ content, readStringOctets (input.length + 1) input = .ok (content, rest) := by
  obtain ⟨⟨content, mid⟩, hread, h⟩ := bind_eq_ok.mp h
  dsimp only at h
  split at h
  · cases h
    exact ⟨content, hread⟩
  · cases h

/-! ## Numbers -/

variable {n : JsonNumber} {negative : Bool}

theorem rest_of_realNumber {significand : Nat} {exponent : Int} {behind : Bytes}
    (h : realNumber negative significand exponent behind = .ok (n, rest)) : rest = behind := by
  unfold realNumber at h
  split at h
  · cases h
    rfl
  · cases h

theorem rest_of_wholeNumber {whole behind : Bytes}
    (h : wholeNumber negative whole behind = .ok (n, rest)) : rest = behind := by
  unfold wholeNumber at h
  dsimp only at h
  split at h
  · split at h
    · cases h
      rfl
    · exact rest_of_realNumber h
  · split at h
    · cases h
      rfl
    · exact rest_of_realNumber h

theorem rest_of_readExponentDigits {bounded : Bool} {value result : Nat}
    (h : readExponentDigits bounded value input = .ok (result, rest)) :
    rest = input.dropWhile isDigitOctet := by
  induction input generalizing value with
  | nil =>
    cases h
    rfl
  | cons b behind ih =>
    rw [readExponentDigits] at h
    by_cases hdigit : isDigitOctet b = true
    · rw [if_pos hdigit] at h
      dsimp only at h
      rw [List.dropWhile_cons_of_pos hdigit]
      split at h
      · cases h
      · exact ih h
    · rw [if_neg hdigit] at h
      cases h
      rw [List.dropWhile_cons_of_neg hdigit]

theorem skipExponent_of_readExponentPart {significand : Nat} {place : Int}
    (h : readExponentPart negative significand place input = .ok (n, rest)) :
    skipExponent input = .ok rest := by
  unfold readExponentPart at h
  split at h
  next below behind hread =>
  split at h
  · cases h
  · next b behind =>
    split at h
    · next hdigit =>
      obtain ⟨⟨value, mid⟩, hdigits, h⟩ := bind_eq_ok.mp h
      rw [rest_of_realNumber h, rest_of_readExponentDigits hdigits]
      -- both look behind the sign, if there is one
      unfold skipExponent
      split
      · cases hread
        exact if_pos hdigit
      · cases hread
        exact if_pos hdigit
      · next hplus hminus =>
        split at hread
        · exact absurd rfl (hplus _)
        · exact absurd rfl (hminus _)
        · cases hread
          exact if_pos hdigit
    · cases h

theorem skipFractionTail_of_readFractionTail {significand : Nat} {place : Int}
    (h : readFractionTail negative significand place input = .ok (n, rest)) :
    skipFractionTail input = .ok rest := by
  cases input with
  | nil => rw [rest_of_realNumber h, skipFractionTail]
  | cons b behind =>
    rw [readFractionTail] at h
    rw [skipFractionTail]
    split at h
    · next hmark => exact (if_pos hmark).trans (skipExponent_of_readExponentPart h)
    · next hmark => rw [if_neg hmark, rest_of_realNumber h]

/-- A point is followed by a digit at least. -/
theorem skipFraction_of_readFraction {significand left : Nat}
    (h : readFraction negative significand left input = .ok (n, rest)) :
    ∃ c after, input = c :: after ∧ isDigitOctet c = true ∧
      skipFractionTail (after.dropWhile isDigitOctet) = .ok rest := by
  unfold readFraction at h
  dsimp only at h
  split at h
  · split at h
    · cases h
    · cases h
  · next hfraction =>
    cases input with
    | nil => exact absurd rfl hfraction
    | cons c after =>
      by_cases hdigit : isDigitOctet c = true
      · rw [List.dropWhile_cons_of_pos hdigit] at h
        exact ⟨c, after, rfl, hdigit, skipFractionTail_of_readFractionTail h⟩
      · rw [List.takeWhile_cons_of_neg hdigit] at hfraction
        exact absurd rfl hfraction

theorem skipNumberTail_of_readNumberTail {whole : Bytes}
    (h : readNumberTail negative whole input = .ok (n, rest)) :
    skipNumberTail input = .ok rest := by
  cases input with
  | nil => rw [rest_of_wholeNumber h, skipNumberTail]
  | cons b behind =>
    rw [readNumberTail] at h
    unfold skipNumberTail
    split at h
    · next hpoint =>
      obtain ⟨c, after, rfl, hdigit, hskip⟩ := skipFraction_of_readFraction h
      exact (if_pos hpoint).trans ((if_pos hdigit).trans hskip)
    · next hpoint =>
      refine (if_neg hpoint).trans ?_
      split at h
      · next hmark => exact (if_pos hmark).trans (skipExponent_of_readExponentPart h)
      · next hmark => rw [if_neg hmark, rest_of_wholeNumber h]

/-- A number that is read is skipped. -/
theorem skipNumber_of_readNumber (h : readNumber negative input = .ok (n, rest)) :
    skipNumber input = .ok rest := by
  unfold readNumber at h
  unfold skipNumber
  split at h
  · cases h
  · next b behind =>
    show (if b = 0x30 then _ else if isDigitOctet b then
      skipNumberTail (behind.dropWhile isDigitOctet) else _) = Except.ok rest
    split at h
    · next hzero =>
      rw [if_pos hzero]
      split at h
      · split at h
        · cases h
        · next hdigit => exact (if_neg hdigit).trans (skipNumberTail_of_readNumberTail h)
      · exact skipNumberTail_of_readNumberTail h
    · next hzero =>
      rw [if_neg hzero]
      split at h
      · next hdigit =>
        rw [if_pos hdigit]
        exact skipNumberTail_of_readNumberTail h
      · cases h

end ProbeGateway.Json
