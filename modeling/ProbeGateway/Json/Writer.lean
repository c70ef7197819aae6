import ProbeGateway.Json.Value
import ProbeGateway.Number.Shortest
import ProbeGateway.Text.Utf8

/-!
# Writing JSON

The compact text of a value: no blanks, members in their order, and in a string only the quote, the
backslash and the control characters escaped.
-/

namespace ProbeGateway

/-- The decimal digits of a natural number. -/
def decimalDigits (n : Nat) : List Char := Nat.toDigits 10 n

/-- The decimal text of a natural number. -/
def decimal (n : Nat) : String := String.ofList (decimalDigits n)

theorem isDigit_of_mem_decimalDigits {n : Nat} {c : Char} (h : c ∈ decimalDigits n) :
    c.isDigit = true := Nat.isDigit_of_mem_toDigits (by omega) (by omega) h

/-- Decimal digits read back as their number. -/
theorem ofDigitChars_decimalDigits (n : Nat) : Nat.ofDigitChars 10 (decimalDigits n) 0 = n :=
  Nat.ofDigitChars_ten_toDigits

theorem decimalDigits_injective {m n : Nat} (h : decimalDigits m = decimalDigits n) : m = n := by
  rw [← ofDigitChars_decimalDigits m, h, ofDigitChars_decimalDigits]

@[simp] theorem toList_decimal (n : Nat) : (decimal n).toList = decimalDigits n :=
  String.toList_ofList

/-- Different numbers have different texts. -/
theorem decimal_injective {m n : Nat} (h : decimal m = decimal n) : m = n :=
  decimalDigits_injective (by rw [← toList_decimal, h, toList_decimal])

/-- The decimal digits of an integer, after a minus sign if it is negative. -/
def signedDigits (n : Int) : List Char :=
  if n < 0 then '-' :: decimalDigits n.natAbs else decimalDigits n.natAbs

@[simp] theorem signedDigits_natCast (n : Nat) : signedDigits (n : Int) = decimalDigits n := by
  unfold signedDigits
  rw [if_neg (by omega), Int.natAbs_natCast]

namespace Json

/-- A hexadecimal digit, in lower case. -/
def hexChar (n : Nat) : Char :=
  if n < 10 then Char.ofNat (0x30 + n) else Char.ofNat (0x61 + (n - 10))

/-- How a character is written inside a string. -/
def escapeChar (c : Char) : List Char :=
  if c = '"' then ['\\', '"']
  else if c = '\\' then ['\\', '\\']
  else if c = '\x08' then ['\\', 'b']
  else if c = '\t' then ['\\', 't']
  else if c = '\n' then ['\\', 'n']
  else if c = '\x0c' then ['\\', 'f']
  else if c = '\r' then ['\\', 'r']
  else if c.toNat < 0x20 then
    ['\\', 'u', '0', '0', hexChar (c.toNat / 16), hexChar (c.toNat % 16)]
  else [c]

/-- A string, in quotes. -/
def writeText (s : String) : List Char := '"' :: s.toList.flatMap escapeChar ++ ['"']

/-- A number; what is not finite has no numeral and is written as `null`. -/
def writeNumber : JsonNumber → List Char
  | .integer n => signedDigits n
  | .real (.finite s m e) => NumberStyle.json.write (.finite s m e)
  | .real _ => ['n', 'u', 'l', 'l']

mutual

/-- The compact text of a value. -/
def write : Json → List Char
  | .null => ['n', 'u', 'l', 'l']
  | .bool true => ['t', 'r', 'u', 'e']
  | .bool false => ['f', 'a', 'l', 's', 'e']
  | .number n => writeNumber n
  | .text s => writeText s
  | .array items => '[' :: writeItems items ++ [']']
  | .object members => '\x7b' :: writeMembers members ++ ['\x7d']

/-- The items of an array, between commas. -/
def writeItems : List Json → List Char
  | [] => []
  | [v] => write v
  | v :: w :: rest => write v ++ ',' :: writeItems (w :: rest)

/-- The members of an object, between commas. -/
def writeMembers : List (String × Json) → List Char
  | [] => []
  | [(k, v)] => writeText k ++ ':' :: write v
  | (k, v) :: m :: rest => writeText k ++ ':' :: write v ++ ',' :: writeMembers (m :: rest)

end

/-- The compact text of a value, as a string. -/
def render (v : Json) : String := String.ofList (write v)

/-- The octets of the compact text of a value. -/
def body (v : Json) : Bytes := Utf8.encodeList (write v)

example : render (.object [("a", .array [.nat 1, .null]), ("b", .text "x\n\x01")]) =
    "\x7b\"a\":[1,null],\"b\":\"x\\n\\u0001\"\x7d" := by decide +kernel

end Json

end ProbeGateway
