import ProbeGateway.Json.Writer
import ProbeGateway.Number.Numeral
import ProbeGateway.Time.Instant

/-!
# Decimal digits

The digits of a number are digits, and read back as the number (`readDigits_decimalDigits`). Zeros
before them change neither (`readDigits_padded`), and fill a fixed width (`length_padded`).
-/

namespace ProbeGateway

/-- A reader goes on with what the reader before it took. -/
theorem ok_bind {ε α β : Type} (a : α) (f : α → Except ε β) : (.ok a >>= f) = f a := rfl

/-- A reader that goes on and succeeds has gone on from a success. -/
theorem bind_eq_ok {ε α β : Type} {x : Except ε α} {f : α → Except ε β} {b : β} :
    (x >>= f) = .ok b ↔ ∃ a, x = .ok a ∧ f a = .ok b := by
  cases x with
  | error e => exact iff_of_false nofun fun ⟨_, h, _⟩ => nomatch h
  | ok a => exact ⟨fun h => ⟨a, rfl, h⟩, fun ⟨_, ha, h⟩ => Except.ok.inj ha ▸ h⟩

/-! ## Digits -/

theorem isDigit_iff {c : Char} : isDigit c = true ↔ 0x30 ≤ c.toNat ∧ c.toNat ≤ 0x39 := by
  unfold isDigit
  rw [Bool.and_eq_true, decide_eq_true_eq, decide_eq_true_eq]
  exact Iff.rfl

theorem isDigit_of_mem_digits {n : Nat} {c : Char} (h : c ∈ decimalDigits n) :
    isDigit c = true := by
  have hd := isDigit_of_mem_decimalDigits h
  unfold Char.isDigit at hd
  rw [Bool.and_eq_true, decide_eq_true_eq, decide_eq_true_eq] at hd
  exact isDigit_iff.mpr hd

theorem decimalDigits_ne_nil (n : Nat) : decimalDigits n ≠ [] := Nat.toDigits_ne_nil

theorem readDigits_eq_ofDigitChars (acc : Nat) (digits : List Char) :
    readDigits acc digits = Nat.ofDigitChars 10 digits acc := by
  rw [Nat.ofDigitChars_eq_foldl]
  unfold readDigits digitValue
  congr 1
  funext n c
  rw [Nat.mul_comm]

@[simp] theorem readDigits_decimalDigits (n : Nat) : readDigits 0 (decimalDigits n) = n := by
  rw [readDigits_eq_ofDigitChars, ofDigitChars_decimalDigits]

theorem length_decimalDigits_le_iff {n width : Nat} (h : 0 < width) :
    (decimalDigits n).length ≤ width ↔ n < Nat.pow 10 width :=
  Nat.length_toDigits_le_iff (by omega) h

/-- A number is smaller than the power of ten that has a digit more. -/
theorem readDigits_lt {digits : List Char} (hd : ∀ d ∈ digits, isDigit d = true) (acc : Nat) :
    readDigits acc digits < (acc + 1) * Nat.pow 10 digits.length := by
  induction digits generalizing acc with
  | nil =>
    show acc < (acc + 1) * 1
    omega
  | cons d digits ih =>
    obtain ⟨-, hhigh⟩ := isDigit_iff.mp (hd d (.head _))
    have hvalue : digitValue d ≤ 9 := by
      show d.toNat - 0x30 ≤ 9
      omega
    have hnext := ih (fun d hd' => hd d (.tail _ hd')) (acc * 10 + digitValue d)
    calc readDigits acc (d :: digits)
        < (acc * 10 + digitValue d + 1) * Nat.pow 10 digits.length := hnext
      _ ≤ ((acc + 1) * 10) * Nat.pow 10 digits.length := Nat.mul_le_mul_right _ (by omega)
      _ = (acc + 1) * (Nat.pow 10 digits.length * 10) := by
        rw [Nat.mul_assoc, Nat.mul_comm 10]
      _ = (acc + 1) * Nat.pow 10 (d :: digits).length := rfl

/-- No zero stands before other digits. -/
theorem eq_nil_of_decimalDigits {n : Nat} {digits : List Char}
    (h : decimalDigits n = '0' :: digits) : digits = [] := by
  rcases Classical.em (digits = []) with hnil | hne
  · exact hnil
  · have hdigits : ∀ d ∈ digits, isDigit d = true := by
      intro d hd
      have hmem : d ∈ decimalDigits n := by
        rw [h]
        exact .tail _ hd
      exact isDigit_of_mem_digits hmem
    have hread : readDigits 0 digits = n := by
      rw [← readDigits_decimalDigits n, h]
      rfl
    have hlt := readDigits_lt hdigits 0
    rw [hread] at hlt
    have hlength := (length_decimalDigits_le_iff (List.length_pos_iff.mpr hne)).mpr
      (show n < Nat.pow 10 digits.length by omega)
    rw [h, List.length_cons] at hlength
    omega

/-! ## Leading zeros -/

namespace Instant

theorem isDigit_of_mem_padded {width n : Nat} {c : Char} (h : c ∈ padded width n) :
    isDigit c = true := by
  rcases List.mem_append.mp h with hzero | hdigit
  · rw [(List.mem_replicate.mp hzero).2]
    rfl
  · exact isDigit_of_mem_digits hdigit

theorem padded_ne_nil (width n : Nat) : padded width n ≠ [] :=
  List.append_ne_nil_of_right_ne_nil _ (decimalDigits_ne_nil n)

theorem length_padded {width n : Nat} (hw : 0 < width) (h : n < Nat.pow 10 width) :
    (padded width n).length = width := by
  have := (length_decimalDigits_le_iff hw).mpr h
  unfold padded
  rw [List.length_append, List.length_replicate]
  omega

@[simp] theorem readDigits_padded (width n : Nat) : readDigits 0 (padded width n) = n := by
  unfold padded
  rw [readDigits_eq_ofDigitChars, Nat.ofDigitChars_append, Nat.ofDigitChars_replicate_zero,
    Nat.mul_zero, ofDigitChars_decimalDigits]

end Instant

end ProbeGateway
