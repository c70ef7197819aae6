import ProbeGateway.Text.Percent

/-!
# Spellings of octets in a path

An octet may be spelled by a percent sign and two digits of either case, and some octets by
themselves as well, so that the same octets have many spellings (`Spells`). All of them are decoded
to the octets (`decode_of_spells`), and no character of them ends a path (`Spells.ends_no_path`).
-/

namespace ProbeGateway.Percent

/-! ## Characters -/

/-- A character is a hexadecimal digit, in either case, of a value. -/
def IsHexDigit (c : Char) (n : Nat) : Prop :=
  "0123456789abcdef".toList[n]? = some c ∨ "0123456789ABCDEF".toList[n]? = some c

/-- A character that stands for itself in a path: a letter, a digit, one of the four other
characters that are not reserved, or a slash. -/
def IsPlain (c : Char) : Prop := c.isAlphanum = true ∨ c ∈ ['-', '.', '_', '~', '/']

theorem toNat_lt_of_isAlphanum {c : Char} (h : c.isAlphanum = true) : c.toNat < 0x80 := by
  have hclasses : (c.isUpper || c.isLower || c.isDigit) = true := h
  have hbound (high : UInt32) (hle : c.val ≤ high) (hhigh : high.toNat < 0x80) :
      c.toNat < 0x80 :=
    Nat.lt_of_le_of_lt (UInt32.le_iff_toNat_le.mp hle) hhigh
  rw [Bool.or_eq_true, Bool.or_eq_true] at hclasses
  rcases hclasses with (hupper | hlower) | hdigit
  · exact hbound 90 (of_decide_eq_true hupper).2 (by decide)
  · exact hbound 122 (of_decide_eq_true (Bool.and_eq_true_iff.mp hlower).2) (by decide)
  · exact hbound 57 (of_decide_eq_true (Bool.and_eq_true_iff.mp hdigit).2) (by decide)

/-- What stands for itself is one octet, is no percent sign and ends no path. -/
theorem IsPlain.ascii {c : Char} (h : IsPlain c) :
    c.toNat < 0x80 ∧ c ≠ '%' ∧ c ≠ '?' ∧ c ≠ '#' := by
  rcases h with h | h
  · refine ⟨toNat_lt_of_isAlphanum h, ?_, ?_, ?_⟩
    all_goals
      rintro rfl
      exact absurd h (by decide)
  · simp only [List.mem_cons, List.not_mem_nil, or_false] at h
    rcases h with rfl | rfl | rfl | rfl | rfl
    all_goals decide

/-- A digit is one octet, which has the value of the digit. -/
theorem IsHexDigit.ascii {c : Char} {n : Nat} (h : IsHexDigit c n) :
    c.toNat < 0x80 ∧ Hex.value? (.ofNat c.toNat) = some n ∧ c ≠ '?' ∧ c ≠ '#' := by
  have hn : n < 16 := by
    rcases h with h | h
    all_goals exact (List.getElem?_eq_some_iff.mp h).1
  let fits (n : Nat) (c : Char) : Bool :=
    c.toNat < 0x80 ∧ Hex.value? (.ofNat c.toNat) = some n ∧ c ≠ '?' ∧ c ≠ '#'
  have hlower : ∀ n < 16, "0123456789abcdef".toList[n]?.all (fits n) = true := by decide +kernel
  have hupper : ∀ n < 16, "0123456789ABCDEF".toList[n]?.all (fits n) = true := by decide +kernel
  have hfits : fits n c = true := by
    rcases h with h | h
    · have := hlower n hn
      rwa [h] at this
    · have := hupper n hn
      rwa [h] at this
  exact of_decide_eq_true hfits

/-! ## Decoding -/

/-- A percent sign and two digits are decoded to one octet. -/
theorem decode_escape {b c : UInt8} {high low : Nat} (hb : Hex.value? b = some high)
    (hc : Hex.value? c = some low) (rest : Bytes) :
    decode (0x25 :: b :: c :: rest) = .ofNat (high * 16 + low) :: decode rest := by
  rw [decode, if_pos rfl, hb, hc]

/-- An octet is no percent sign that two digits follow. -/
def NoEscape (a : UInt8) (rest : Bytes) : Prop :=
  a = 0x25 → ∀ b c tail high low, rest = b :: c :: tail →
    Hex.value? b = some high → Hex.value? c ≠ some low

theorem decode_cons_of_noEscape {a : UInt8} {rest : Bytes} (h : NoEscape a rest) :
    decode (a :: rest) = a :: decode rest := by
  -- The decoder looks at the two octets behind a percent sign, so it tells short ends apart.
  match rest with
  | [] => rfl
  | [_] => rfl
  | b :: c :: tail =>
    rw [decode]
    split
    · next ha =>
      split
      · next hb hc => exact absurd hc (h ha b c tail _ _ rfl hb)
      · rfl
    · rfl

theorem decode_cons_of_ne {b : UInt8} (h : b ≠ 0x25) (rest : Bytes) :
    decode (b :: rest) = b :: decode rest := decode_cons_of_noEscape fun he => absurd he h

/-! ## Spellings -/

/-- Characters spell octets: each octet is spelled by itself or by a percent sign and its digits. -/
inductive Spells : List Char → Bytes → Prop
  | nil : Spells [] []
  | plain {c : Char} {e : List Char} {bs : Bytes} (hc : IsPlain c) (he : Spells e bs) :
      Spells (c :: e) (.ofNat c.toNat :: bs)
  | escaped {b : UInt8} {c d : Char} {e : List Char} {bs : Bytes}
      (hc : IsHexDigit c (b.toNat / 16)) (hd : IsHexDigit d (b.toNat % 16)) (he : Spells e bs) :
      Spells ('%' :: c :: d :: e) (b :: bs)

variable {e : List Char} {bs : Bytes}

/-- **Every spelling is decoded to the octets that it spells.** -/
theorem decode_of_spells (h : Spells e bs) : decode (Utf8.encodeList e) = bs := by
  induction h with
  | nil => rfl
  | @plain c e bs hc he ih =>
    obtain ⟨hascii, hpercent, -, -⟩ := hc.ascii
    have hne : UInt8.ofNat c.toNat ≠ 0x25 := by
      intro h
      apply hpercent
      rw [← Char.toNat_inj, ← Utf8.toNat_ofNat_of_lt (show c.toNat < 256 by omega), h]
      rfl
    rw [Utf8.encodeList_cons, Utf8.encodeChar_of_ascii hascii, List.singleton_append,
      decode_cons_of_ne hne, ih]
  | @escaped b c d e bs hc hd he ih =>
    obtain ⟨hcascii, hcvalue, -, -⟩ := hc.ascii
    obtain ⟨hdascii, hdvalue, -, -⟩ := hd.ascii
    rw [Utf8.encodeList_cons, Utf8.encodeList_cons, Utf8.encodeList_cons,
      Utf8.encodeChar_of_ascii hcascii, Utf8.encodeChar_of_ascii hdascii]
    show decode (0x25 :: .ofNat c.toNat :: .ofNat d.toNat :: Utf8.encodeList e) = _
    rw [decode_escape hcvalue hdvalue, ih,
      show b.toNat / 16 * 16 + b.toNat % 16 = b.toNat by omega, UInt8.ofNat_toNat]

/-- A spelling of the octets of a text is read as the text. -/
theorem segmentText?_of_spells {e t : String} (h : Spells e.toList (octets t)) :
    segmentText? e = some t := by
  unfold segmentText?
  rw [show octets e = Utf8.encodeList e.toList from rfl, decode_of_spells h]
  exact Utf8.decode?_encode t

/-- An empty segment spells the empty text. -/
theorem ne_empty_of_segmentText? {segment t : String} (h : segmentText? segment = some t)
    (ht : t ≠ "") : segment ≠ "" := by
  rintro rfl
  have hempty : segmentText? "" = some "" := Utf8.decode?_encode ""
  rw [hempty] at h
  exact ht (Option.some.inj h).symm

/-- Only nothing is spelled by nothing. -/
theorem ne_empty_of_spells {e t : String} (h : Spells e.toList (octets t)) (ht : t ≠ "") :
    e ≠ "" := ne_empty_of_segmentText? (segmentText?_of_spells h) ht

/-- No character of a spelling ends a path. -/
theorem Spells.ends_no_path (h : Spells e bs) : ∀ c ∈ e, c ≠ '?' ∧ c ≠ '#' := by
  induction h with
  | nil => exact nofun
  | plain hc he ih =>
    intro x hx
    rcases List.mem_cons.mp hx with rfl | hx
    · exact hc.ascii.2.2
    · exact ih x hx
  | escaped hc hd he ih =>
    intro x hx
    simp only [List.mem_cons] at hx
    rcases hx with rfl | rfl | rfl | hx
    · decide
    · exact hc.ascii.2.2
    · exact hd.ascii.2.2
    · exact ih x hx

end ProbeGateway.Percent
