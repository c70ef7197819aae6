import ProbeGateway.Text.Printable

/-!
# Quoted text

How a text is shown inside a message: between double quotes, with a backslash before a quote and
before a backslash, short escapes for the four commonest control characters, and a hexadecimal
escape for every other character that has no glyph of its own.
-/

namespace ProbeGateway.Quoted

/-- The hexadecimal digits of a number, in lower case and without leading zeros. -/
def hexDigits (n : Nat) : List Char := Nat.toDigits 16 n

/-- How one character is written inside quotes. -/
def escape (c : Char) : List Char :=
  match c with
  | '\x00' => ['\\', '0']
  | '\t' => ['\\', 't']
  | '\r' => ['\\', 'r']
  | '\n' => ['\\', 'n']
  | '\\' => ['\\', '\\']
  | '"' => ['\\', '"']
  | c => if Printable.isPrintable c then [c] else
    ['\\', 'u', '\x7b'] ++ hexDigits c.toNat ++ ['\x7d']

/-- A text between quotes. -/
def quote (s : String) : String :=
  String.ofList ('"' :: s.toList.flatMap escape ++ ['"'])

end ProbeGateway.Quoted
