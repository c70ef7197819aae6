import ProbeGateway.Text.Utf8

/-!
# Hexadecimal digits

The digits of an octet, and their values. Both cases are read, upper case is written.
-/

namespace ProbeGateway.Hex

/-- The value of a hexadecimal digit given as an octet. -/
def value? (b : UInt8) : Option Nat :=
  let n := b.toNat
  if 0x30 ≤ n ∧ n ≤ 0x39 then some (n - 0x30)
  else if 0x41 ≤ n ∧ n ≤ 0x46 then some (n - 0x41 + 10)
  else if 0x61 ≤ n ∧ n ≤ 0x66 then some (n - 0x61 + 10)
  else none

/-- The octet of a hexadecimal digit, in upper case. -/
def upper (n : Nat) : UInt8 := .ofNat (if n < 10 then 0x30 + n else 0x41 + (n - 10))

/-- The octet of a hexadecimal digit, in lower case. -/
def lower (n : Nat) : UInt8 := .ofNat (if n < 10 then 0x30 + n else 0x61 + (n - 10))

theorem value?_lower : ∀ n < 16, value? (lower n) = some n := by decide

end ProbeGateway.Hex
