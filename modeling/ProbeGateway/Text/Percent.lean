import ProbeGateway.Text.Hex

/-!
# Percent-encoding

An octet may stand as itself or as a percent sign and two hexadecimal digits. A percent sign that
no two digits follow stands for itself. On top of it, the form encoding of name and value pairs
writes a blank as a plus sign and joins pairs with ampersands.
-/

namespace ProbeGateway.Percent

/-! ## Octets -/

/-- Replaces every percent sign and its two digits by the octet they spell. -/
def decode : Bytes → Bytes
  | [] => []
  | a :: b :: c :: rest =>
    if a = 0x25 then
      match Hex.value? b, Hex.value? c with
      | some high, some low => .ofNat (high * 16 + low) :: decode rest
      | _, _ => a :: decode (b :: c :: rest)
    else a :: decode (b :: c :: rest)
  | a :: rest => a :: decode rest

/-- An octet as a percent sign and two digits. -/
def escape (b : UInt8) : Bytes := [0x25, Hex.upper (b.toNat / 16), Hex.upper (b.toNat % 16)]

/-- Octets with every octet outside a set escaped. -/
def encode (keep : UInt8 → Bool) (bs : Bytes) : Bytes :=
  bs.flatMap fun b => if keep b then [b] else escape b

/-- The text that a percent-encoded path segment spells, if its octets are UTF-8. -/
def segmentText? (s : String) : Option String := Utf8.decode? (decode (octets s))

/-- Whether the octet of a letter or a digit. -/
def isAlphanumeric (b : UInt8) : Bool :=
  (0x30 ≤ b && b ≤ 0x39) || (0x41 ≤ b && b ≤ 0x5A) || (0x61 ≤ b && b ≤ 0x7A)

/-- The octets that a form field holds as themselves: letters, digits and `*`, `-`, `.`, `_`. -/
def isFormSafe (b : UInt8) : Bool :=
  isAlphanumeric b || b == 0x2A || b == 0x2D || b == 0x2E || b == 0x5F

/-- A name or a value as it stands in a form. -/
def formField (s : String) : Bytes :=
  (octets s).flatMap fun b =>
    if isFormSafe b then [b] else if b = 0x20 then [0x2B] else escape b

/-- Name and value pairs as one form text. -/
def formEncode : List (String × String) → Bytes
  | [] => []
  | [(name, value)] => formField name ++ 0x3D :: formField value
  | (name, value) :: rest => formField name ++ 0x3D :: formField value ++ 0x26 :: formEncode rest

/-- The text of a form field: plus signs are blanks, and ill-formed octets are replaced. -/
def formText (bs : Bytes) : String :=
  Utf8.decodeLossy (decode (bs.map fun b => if b = 0x2B then 0x20 else b))

/-- Cuts octets at every occurrence of a separator. -/
def splitAtByte (sep : UInt8) : Bytes → List Bytes
  | [] => [[]]
  | b :: rest =>
    if b = sep then [] :: splitAtByte sep rest
    else match splitAtByte sep rest with
      | part :: parts => (b :: part) :: parts
      | [] => [[b]]

/-- A pair of a form: the name ends at the first equals sign, and the value may be missing. -/
def formPair (bs : Bytes) : String × String :=
  (formText (bs.takeWhile (· != 0x3D)), formText ((bs.dropWhile (· != 0x3D)).drop 1))

/-- The pairs of a form text, in order; empty pieces between ampersands count for nothing. -/
def formDecode (bs : Bytes) : List (String × String) :=
  ((splitAtByte 0x26 bs).filter fun part => !part.isEmpty).map formPair

example :
    formDecode (octets "a=1&&b&c=%C3%A9+%zz=") = [("a", "1"), ("b", ""), ("c", "é %zz=")] := by
  decide +kernel
example :
    formEncode [("query", "up\x7bjob=\"é b\"\x7d")] =
      octets "query=up%7Bjob%3D%22%C3%A9+b%22%7D" := by
  decide +kernel

end ProbeGateway.Percent
