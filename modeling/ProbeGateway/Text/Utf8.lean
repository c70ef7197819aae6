/-!
# UTF-8

Text is a `String`, octets are a list of bytes. `Utf8.encode` writes text as octets, `Utf8.step`
reads one character off the front, and the two decoders are folds of it: `Utf8.decode?` refuses an
ill-formed sequence, `Utf8.decodeLossy` puts the replacement character in its place.
-/

namespace ProbeGateway

/-- A sequence of octets: a body, a header on the wire, or encoded text. -/
abbrev Bytes := List UInt8

namespace Utf8

/-! ## Writing -/

/-- The one to four octets of a character, the lead octet first. -/
def encodeChar (c : Char) : Bytes :=
  let n := c.toNat
  if n < 0x80 then [.ofNat n]
  else if n < 0x800 then [.ofNat (0xC0 + n / 0x40), .ofNat (0x80 + n % 0x40)]
  else if n < 0x10000 then
    [.ofNat (0xE0 + n / 0x1000), .ofNat (0x80 + n / 0x40 % 0x40), .ofNat (0x80 + n % 0x40)]
  else
    [.ofNat (0xF0 + n / 0x40000), .ofNat (0x80 + n / 0x1000 % 0x40),
      .ofNat (0x80 + n / 0x40 % 0x40), .ofNat (0x80 + n % 0x40)]

/-- A character of ASCII is one octet. -/
theorem encodeChar_of_ascii {c : Char} (h : c.toNat < 0x80) : encodeChar c = [.ofNat c.toNat] :=
  if_pos h

/-- The octets of a list of characters. -/
def encodeList (s : List Char) : Bytes := s.flatMap encodeChar

/-- The octets of a text. -/
def encode (s : String) : Bytes := encodeList s.toList

@[simp] theorem encodeList_nil : encodeList [] = [] := rfl

@[simp] theorem encodeList_cons (c : Char) (s : List Char) :
    encodeList (c :: s) = encodeChar c ++ encodeList s := rfl

@[simp] theorem encodeList_append (s t : List Char) :
    encodeList (s ++ t) = encodeList s ++ encodeList t := List.flatMap_append

/-! ## Reading -/

/-- What stands at the front of a non-empty sequence of octets. -/
inductive Step
  /-- A well-formed character, and what follows it. -/
  | char (c : Char) (rest : Bytes)
  /-- The longest prefix that could have begun a character is cut off. -/
  | broken (rest : Bytes)

/-- The values the second octet may have after the given lead octet. -/
def secondRange (lead : Nat) : Nat × Nat :=
  if lead = 0xE0 then (0xA0, 0xBF)
  else if lead = 0xED then (0x80, 0x9F)
  else if lead = 0xF0 then (0x90, 0xBF)
  else if lead = 0xF4 then (0x80, 0x8F)
  else (0x80, 0xBF)

/-- Whether an octet may stand second after the given lead octet. -/
def isSecond (lead b : Nat) : Bool :=
  (secondRange lead).1 ≤ b && b ≤ (secondRange lead).2

/-- Whether an octet may stand third or fourth. -/
def isTail (b : Nat) : Bool := 0x80 ≤ b && b ≤ 0xBF

/-- Reads `k` more octets of a character whose bits so far are `value`. -/
def readTail : (k value : Nat) → Bytes → Step
  | 0, value, rest => .char (Char.ofNat value) rest
  | k + 1, value, b :: rest =>
    if isTail b.toNat then readTail k (value * 0x40 + (b.toNat - 0x80)) rest
    else .broken (b :: rest)
  | _ + 1, _, [] => .broken []

/-- Reads the second octet of a character, and `k` more. -/
def readSecond (lead k value : Nat) : Bytes → Step
  | b :: rest =>
    if isSecond lead b.toNat then readTail k (value * 0x40 + (b.toNat - 0x80)) rest
    else .broken (b :: rest)
  | [] => .broken []

/-- Reads the character that a lead octet begins. -/
def step (lead : UInt8) (rest : Bytes) : Step :=
  let a := lead.toNat
  if a < 0x80 then .char (Char.ofNat a) rest
  else if a < 0xC2 then .broken rest
  else if a < 0xE0 then readSecond a 0 (a - 0xC0) rest
  else if a < 0xF0 then readSecond a 1 (a - 0xE0) rest
  else if a < 0xF5 then readSecond a 2 (a - 0xF0) rest
  else .broken rest

/-- The octets a step leaves. -/
def Step.rest : Step → Bytes
  | .char _ r => r
  | .broken r => r

theorem readTail_rest_length (k value : Nat) (r : Bytes) :
    (readTail k value r).rest.length ≤ r.length := by
  induction k generalizing value r with
  | zero => simp [readTail, Step.rest]
  | succ k ih =>
    cases r with
    | nil => simp [readTail, Step.rest]
    | cons b r =>
      rw [readTail]
      split
      · exact Nat.le_trans (ih _ _) (by simp)
      · simp [Step.rest]

theorem readSecond_rest_length (lead k value : Nat) (r : Bytes) :
    (readSecond lead k value r).rest.length ≤ r.length := by
  cases r with
  | nil => simp [readSecond, Step.rest]
  | cons b r =>
    rw [readSecond]
    split
    · exact Nat.le_trans (readTail_rest_length _ _ _) (by simp)
    · simp [Step.rest]

theorem step_rest_length (a : UInt8) (r : Bytes) : (step a r).rest.length ≤ r.length := by
  unfold step
  simp only
  repeat' split
  all_goals first | exact readSecond_rest_length _ _ _ _ | simp [Step.rest]

/-- The characters of well-formed octets. -/
def decodeList? : Bytes → Option (List Char)
  | [] => some []
  | a :: r =>
    match _h : step a r with
    | .char c rest => (decodeList? rest).map (c :: ·)
    | .broken _ => none
termination_by bs => bs.length
decreasing_by
  have := step_rest_length a r
  simp only [_h, Step.rest] at this
  simp only [List.length_cons]; omega

/-- The text of well-formed octets. -/
def decode? (bs : Bytes) : Option String := (decodeList? bs).map String.ofList

/-- The character that stands in for octets that encode nothing. -/
def replacement : Char := '\uFFFD'

/-- The characters of any octets, each ill-formed part read as the replacement character. -/
def decodeLossyList : Bytes → List Char
  | [] => []
  | a :: r =>
    match _h : step a r with
    | .char c rest => c :: decodeLossyList rest
    | .broken rest => replacement :: decodeLossyList rest
termination_by bs => bs.length
decreasing_by
  all_goals
    have := step_rest_length a r
    simp only [_h, Step.rest] at this
    simp only [List.length_cons]; omega

/-- The text of any octets, each ill-formed part read as the replacement character. -/
def decodeLossy (bs : Bytes) : String := String.ofList (decodeLossyList bs)

/-! ## Reading what was written -/

theorem toNat_ofNat_of_lt {n : Nat} (h : n < 256) : (UInt8.ofNat n).toNat = n := by
  simp [Nat.mod_eq_of_lt h]

theorem char_toNat_lt (c : Char) : c.toNat < 0x110000 := by
  have := c.valid
  simp only [UInt32.isValidChar, Nat.isValidChar] at this
  simp only [Char.toNat]; omega

theorem char_toNat_not_surrogate (c : Char) : c.toNat < 0xD800 ∨ 0xDFFF < c.toNat := by
  have := c.valid
  simp only [UInt32.isValidChar, Nat.isValidChar] at this
  simp only [Char.toNat]; omega

theorem step_encodeChar (c : Char) (rest : Bytes) :
    ∃ a r, encodeChar c ++ rest = a :: r ∧ step a r = .char c rest := by
  have hlt := char_toNat_lt c
  have hsur := char_toNat_not_surrogate c
  by_cases h1 : c.toNat < 0x80
  · refine ⟨.ofNat c.toNat, rest, by simp [encodeChar, h1], ?_⟩
    simp [step, Nat.mod_eq_of_lt (show c.toNat < 256 by omega), h1]
  by_cases h2 : c.toNat < 0x800
  · refine ⟨.ofNat (0xC0 + c.toNat / 0x40), .ofNat (0x80 + c.toNat % 0x40) :: rest,
      by simp [encodeChar, h1, h2], ?_⟩
    have e1 := toNat_ofNat_of_lt (show 0xC0 + c.toNat / 0x40 < 256 by omega)
    have e2 := toNat_ofNat_of_lt (show 0x80 + c.toNat % 0x40 < 256 by omega)
    have hsec : isSecond (0xC0 + c.toNat / 0x40) (0x80 + c.toNat % 0x40) = true := by
      unfold isSecond secondRange
      repeat' split
      all_goals
        simp
        omega
    simp only [step, readSecond, readTail, e1, e2, hsec]
    rw [if_neg (by omega), if_neg (by omega), if_pos (by omega), if_pos trivial,
      show (0xC0 + c.toNat / 0x40 - 0xC0) * 0x40 + (0x80 + c.toNat % 0x40 - 0x80) = c.toNat
        by omega, Char.ofNat_toNat]
  by_cases h3 : c.toNat < 0x10000
  · refine ⟨.ofNat (0xE0 + c.toNat / 0x1000), .ofNat (0x80 + c.toNat / 0x40 % 0x40) ::
      .ofNat (0x80 + c.toNat % 0x40) :: rest, by simp [encodeChar, h1, h2, h3], ?_⟩
    have e1 := toNat_ofNat_of_lt (show 0xE0 + c.toNat / 0x1000 < 256 by omega)
    have e2 := toNat_ofNat_of_lt (show 0x80 + c.toNat / 0x40 % 0x40 < 256 by omega)
    have e3 := toNat_ofNat_of_lt (show 0x80 + c.toNat % 0x40 < 256 by omega)
    have hsec : isSecond (0xE0 + c.toNat / 0x1000) (0x80 + c.toNat / 0x40 % 0x40) = true := by
      unfold isSecond secondRange
      repeat' split
      all_goals
        simp
        omega
    have htail : isTail (0x80 + c.toNat % 0x40) = true := by simp [isTail]; omega
    simp only [step, readSecond, readTail, e1, e2, e3, hsec, htail]
    rw [if_neg (by omega), if_neg (by omega), if_neg (by omega), if_pos (by omega), if_pos trivial,
      if_pos trivial, show ((0xE0 + c.toNat / 0x1000 - 0xE0) * 0x40
          + (0x80 + c.toNat / 0x40 % 0x40 - 0x80)) * 0x40 + (0x80 + c.toNat % 0x40 - 0x80)
        = c.toNat by omega, Char.ofNat_toNat]
  · refine ⟨.ofNat (0xF0 + c.toNat / 0x40000), .ofNat (0x80 + c.toNat / 0x1000 % 0x40) ::
      .ofNat (0x80 + c.toNat / 0x40 % 0x40) :: .ofNat (0x80 + c.toNat % 0x40) :: rest,
      by simp [encodeChar, h1, h2, h3], ?_⟩
    have e1 := toNat_ofNat_of_lt (show 0xF0 + c.toNat / 0x40000 < 256 by omega)
    have e2 := toNat_ofNat_of_lt (show 0x80 + c.toNat / 0x1000 % 0x40 < 256 by omega)
    have e3 := toNat_ofNat_of_lt (show 0x80 + c.toNat / 0x40 % 0x40 < 256 by omega)
    have e4 := toNat_ofNat_of_lt (show 0x80 + c.toNat % 0x40 < 256 by omega)
    have hsec : isSecond (0xF0 + c.toNat / 0x40000) (0x80 + c.toNat / 0x1000 % 0x40) = true := by
      unfold isSecond secondRange
      repeat' split
      all_goals
        simp
        omega
    have htail : isTail (0x80 + c.toNat / 0x40 % 0x40) = true := by simp [isTail]; omega
    have htail' : isTail (0x80 + c.toNat % 0x40) = true := by simp [isTail]; omega
    simp only [step, readSecond, readTail, e1, e2, e3, e4, hsec, htail, htail']
    rw [if_neg (by omega), if_neg (by omega), if_neg (by omega), if_neg (by omega),
      if_pos (by omega), if_pos trivial, if_pos trivial, if_pos trivial,
      show (((0xF0 + c.toNat / 0x40000 - 0xF0) * 0x40 + (0x80 + c.toNat / 0x1000 % 0x40 - 0x80))
          * 0x40 + (0x80 + c.toNat / 0x40 % 0x40 - 0x80)) * 0x40 + (0x80 + c.toNat % 0x40 - 0x80)
        = c.toNat by omega, Char.ofNat_toNat]

/-- The octets of a character, followed by anything, read back as that character. -/
theorem decodeList?_encodeChar_append (c : Char) (rest : Bytes) :
    decodeList? (encodeChar c ++ rest) = (decodeList? rest).map (c :: ·) := by
  obtain ⟨a, r, hcons, hstep⟩ := step_encodeChar c rest
  rw [hcons, decodeList?]
  split <;> simp_all

theorem decodeList?_encodeList (s : List Char) : decodeList? (encodeList s) = some s := by
  induction s with
  | nil => simp [decodeList?]
  | cons c s ih => rw [encodeList_cons, decodeList?_encodeChar_append, ih]; rfl

/-- Reading the octets of a text gives the text. -/
theorem decode?_encode (s : String) : decode? (encode s) = some s := by
  simp [decode?, encode, decodeList?_encodeList]

end Utf8

/-- The octets of a text. -/
def octets (s : String) : Bytes := Utf8.encode s

end ProbeGateway
