import ProbeGateway.Json.Reader
import ProbeGateway.Proofs.Number.Digits

/-!
# Strings read back

A string in quotes is read back as it was, whatever characters it holds (`readString_escaped`).

1. An octet that is neither quote nor backslash nor a control character is taken as it is, and so
   are all octets of a character that needs no escape (`EndsString.plain`).
2. An escape of either form is read as the character that it was written for
   (`EndsString.escape`, `readEscape_control`).
-/

namespace ProbeGateway.Json

/-! ## Plain octets -/

/-- An octet stands for itself within a string. -/
def IsPlain (b : UInt8) : Prop := b ≠ 0x22 ∧ b ≠ 0x5C ∧ ¬ b < 0x20

theorem isPlain_ofNat {n : Nat} (hn : n < 256) (hlow : 0x20 ≤ n) (hquote : n ≠ 0x22)
    (hback : n ≠ 0x5C) : IsPlain (.ofNat n) := by
  have hnat : (UInt8.ofNat n).toNat = n := Utf8.toNat_ofNat_of_lt hn
  refine ⟨fun h => hquote ?_, fun h => hback ?_, fun h => ?_⟩
  · rw [← hnat, h]
    rfl
  · rw [← hnat, h]
    rfl
  · have := UInt8.lt_iff_toNat_lt.mp h
    rw [hnat] at this
    exact absurd this (Nat.not_lt.mpr hlow)

/-- A character that needs no escape is written in octets that need none. -/
theorem isPlain_of_mem_encodeChar {c : Char} (hquote : c ≠ '"') (hback : c ≠ '\\')
    (hlow : ¬ c.toNat < 0x20) {b : UInt8} (hb : b ∈ Utf8.encodeChar c) : IsPlain b := by
  have hlt := Utf8.char_toNat_lt c
  have hq : c.toNat ≠ 0x22 := fun h => hquote (Char.toNat_inj.mp h)
  have hs : c.toNat ≠ 0x5C := fun h => hback (Char.toNat_inj.mp h)
  unfold Utf8.encodeChar at hb
  dsimp only at hb
  split at hb
  · rw [List.mem_singleton.mp hb]
    exact isPlain_ofNat (by omega) (by omega) hq hs
  · split at hb
    · simp only [List.mem_cons, List.not_mem_nil, or_false] at hb
      rcases hb with rfl | rfl
      all_goals exact isPlain_ofNat (by omega) (by omega) (by omega) (by omega)
    · split at hb
      · simp only [List.mem_cons, List.not_mem_nil, or_false] at hb
        rcases hb with rfl | rfl | rfl
        all_goals exact isPlain_ofNat (by omega) (by omega) (by omega) (by omega)
      · simp only [List.mem_cons, List.not_mem_nil, or_false] at hb
        rcases hb with rfl | rfl | rfl | rfl
        all_goals exact isPlain_ofNat (by omega) (by omega) (by omega) (by omega)

/-! ## One character after the other -/

/-- Octets are the rest of a string with a given content, and leave what is behind it. -/
def EndsString (input content rest : Bytes) : Prop :=
  ∀ fuel, input.length < fuel → readStringOctets fuel input = .ok (content, rest)

theorem endsString_quote (rest : Bytes) : EndsString (0x22 :: rest) [] rest := by
  intro fuel hfuel
  cases fuel with
  | zero => exact absurd hfuel (Nat.not_lt_zero _)
  | succ fuel => rfl

variable {input content rest : Bytes}

/-- Plain octets are taken as they are. -/
theorem EndsString.plain (h : EndsString input content rest) {bs : Bytes}
    (hbs : ∀ b ∈ bs, IsPlain b) : EndsString (bs ++ input) (bs ++ content) rest := by
  induction bs with
  | nil => exact h
  | cons b bs ih =>
    obtain ⟨hquote, hback, hlow⟩ := hbs b (.head _)
    have hrest := ih fun b hb => hbs b (.tail _ hb)
    intro fuel hfuel
    cases fuel with
    | zero => exact absurd hfuel (Nat.not_lt_zero _)
    | succ fuel =>
      have := hrest fuel (by simpa using hfuel)
      rw [List.cons_append, readStringOctets, if_neg hquote, if_neg hback, if_neg hlow, this]
      rfl

/-- An escape is taken for its character. -/
theorem EndsString.escape (h : EndsString input content rest) (bs : Bytes) {c : Char}
    (hbs : readEscape (bs ++ input) = .ok (c, input)) :
    EndsString (0x5C :: (bs ++ input)) (Utf8.encodeChar c ++ content) rest := by
  intro fuel hfuel
  cases fuel with
  | zero => exact absurd hfuel (Nat.not_lt_zero _)
  | succ fuel =>
    have hlength : input.length < fuel := by
      rw [List.length_cons, List.length_append] at hfuel
      omega
    rw [readStringOctets, if_neg (by decide), if_pos rfl, hbs]
    show (readStringOctets fuel input >>= _) = _
    rw [h fuel hlength]
    rfl

/-! ## Unicode escapes -/

theorem encodeChar_hexChar : ∀ n < 16, Utf8.encodeChar (hexChar n) = [Hex.lower n] := by decide

/-- A control character is read back from its digits. -/
theorem readEscape_control {c : Char} (hc : c.toNat < 0x20) (input : Bytes) :
    readEscape ([0x75, 0x30, 0x30, Hex.lower (c.toNat / 16), Hex.lower (c.toNat % 16)] ++ input) =
      .ok (c, input) := by
  have hhex : hexValue? 0x30 0x30 (Hex.lower (c.toNat / 16)) (Hex.lower (c.toNat % 16)) =
      some c.toNat := by
    unfold hexValue?
    rw [Hex.value?_lower _ (by omega), Hex.value?_lower _ (by omega)]
    show some (((0 * 16 + 0) * 16 + c.toNat / 16) * 16 + c.toNat % 16) = _
    congr 1
    omega
  have hread : readHex4 (0x30 :: 0x30 :: Hex.lower (c.toNat / 16) :: Hex.lower (c.toNat % 16) ::
      input) = .ok (c.toNat, input) := by
    rw [readHex4, hhex]
  have hlow : isLowSurrogate c.toNat = false := by
    unfold isLowSurrogate
    rw [Bool.and_eq_false_iff, decide_eq_false_iff_not]
    omega
  have hhigh : isHighSurrogate c.toNat = false := by
    unfold isHighSurrogate
    rw [Bool.and_eq_false_iff, decide_eq_false_iff_not]
    omega
  show readUnicodeEscape (0x30 :: 0x30 :: Hex.lower (c.toNat / 16) ::
    Hex.lower (c.toNat % 16) :: input) = _
  unfold readUnicodeEscape
  rw [hread, ok_bind]
  dsimp only
  rw [hlow, hhigh, if_neg Bool.false_ne_true, if_neg Bool.false_ne_true, Char.ofNat_toNat]

/-! ## Strings -/

/-- However a character is written, it is read back. -/
theorem EndsString.char (h : EndsString input content rest) (c : Char) :
    EndsString (Utf8.encodeList (escapeChar c) ++ input) (Utf8.encodeChar c ++ content) rest := by
  unfold escapeChar
  split
  · next hc =>
    subst hc
    exact h.escape [0x22] rfl
  split
  · next hc =>
    subst hc
    exact h.escape [0x5C] rfl
  split
  · next hc =>
    subst hc
    exact h.escape [0x62] rfl
  split
  · next hc =>
    subst hc
    exact h.escape [0x74] rfl
  split
  · next hc =>
    subst hc
    exact h.escape [0x6E] rfl
  split
  · next hc =>
    subst hc
    exact h.escape [0x66] rfl
  split
  · next hc =>
    subst hc
    exact h.escape [0x72] rfl
  split
  · next hc =>
    -- A control character has two digits, and the escape four.
    have hwritten : Utf8.encodeList ['\\', 'u', '0', '0', hexChar (c.toNat / 16),
        hexChar (c.toNat % 16)] =
        0x5C :: [0x75, 0x30, 0x30, Hex.lower (c.toNat / 16), Hex.lower (c.toNat % 16)] := by
      simp only [Utf8.encodeList_cons, encodeChar_hexChar _ (show c.toNat / 16 < 16 by omega),
        encodeChar_hexChar _ (show c.toNat % 16 < 16 by omega)]
      rfl
    rw [hwritten]
    exact h.escape _ (readEscape_control hc input)
  · next hquote hback _ _ _ _ _ hlow =>
    rw [Utf8.encodeList_cons, Utf8.encodeList_nil, List.append_nil]
    exact h.plain fun b hb => isPlain_of_mem_encodeChar hquote hback hlow hb

theorem endsString_escaped (s : List Char) (rest : Bytes) :
    EndsString (Utf8.encodeList (s.flatMap escapeChar) ++ 0x22 :: rest) (Utf8.encodeList s)
      rest := by
  induction s with
  | nil => exact endsString_quote rest
  | cons c s ih =>
    rw [List.flatMap_cons, Utf8.encodeList_append, List.append_assoc, Utf8.encodeList_cons]
    exact ih.char c

/-- **A string is read back**, up to its closing quote. -/
theorem readString_escaped (s : String) (rest : Bytes) :
    readString (Utf8.encodeList (s.toList.flatMap escapeChar) ++ 0x22 :: rest) = .ok (s, rest) := by
  unfold readString
  rw [endsString_escaped s.toList rest _ (Nat.lt_succ_self _), ok_bind]
  dsimp only
  rw [show Utf8.decode? (Utf8.encodeList s.toList) = some s from Utf8.decode?_encode s]

end ProbeGateway.Json
