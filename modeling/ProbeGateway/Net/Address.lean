import ProbeGateway.Number.Numeral
import ProbeGateway.Text.Quoted

/-!
# Socket addresses

An address of either Internet protocol and a port. The text of a version 6 address shortens the
first of its longest runs of at least two zero groups, and shows an address that stands for a
version 4 address with that address at its end.
-/

namespace ProbeGateway

/-- An Internet address. -/
inductive Address
  | v4 (octets : List Nat)
  /-- Eight groups, and the zone they are valid in, zero for none. -/
  | v6 (groups : List Nat) (zone : Nat)
deriving DecidableEq, Repr

/-- An Internet address and a port. -/
structure SocketAddress where
  address : Address
  port : Nat
deriving DecidableEq, Repr

/-- Whether an address takes in another one: the zero address of a version takes in all addresses
of it, and that of version 6 those of version 4 too. -/
def Address.takesIn : Address → Address → Bool
  | v4 octets, v4 others => octets = others || octets.all (· = 0)
  | v6 groups zone, v6 others otherZone =>
    (groups = others && zone = otherZone) || groups.all (· = 0)
  | v6 groups _, v4 _ => groups.all (· = 0)
  | v4 _, v6 _ _ => false

namespace SocketAddress

/-- Whether two listeners cannot have two addresses at once. Port zero stands for any free port. -/
def collides (a b : SocketAddress) : Bool :=
  a.port = b.port && a.port ≠ 0 && (a.address.takesIn b.address || b.address.takesIn a.address)

/-! ## Reading -/

/-- The value of a hexadecimal digit. -/
def hexDigit? (c : Char) : Option Nat :=
  if '0' ≤ c ∧ c ≤ '9' then some (c.toNat - '0'.toNat)
  else if 'a' ≤ c ∧ c ≤ 'f' then some (c.toNat - 'a'.toNat + 10)
  else if 'A' ≤ c ∧ c ≤ 'F' then some (c.toNat - 'A'.toNat + 10)
  else none

/-- Reads one given character. -/
def readChar (c : Char) : List Char → Option (List Char)
  | [] => none
  | d :: rest => if d = c then some rest else none

/-- Reads a decimal number below a limit; leading zeros are allowed. -/
def readNumber (limit : Nat) (s : List Char) : Option (Nat × List Char) :=
  let digits := s.takeWhile isDigit
  let value := readDigits 0 digits
  if digits.isEmpty || limit ≤ value then none else some (value, s.drop digits.length)

/-- Reads a number from 0 to 255 in at most three digits and without leading zeros. -/
def readOctet (s : List Char) : Option (Nat × List Char) :=
  let digits := s.takeWhile isDigit
  if 3 < digits.length || (1 < digits.length && digits.head? == some '0') then none
  else readNumber 256 s

/-- Reads four numbers between dots. -/
def readV4 (s : List Char) : Option (List Nat × List Char) := do
  let (a, s) ← readOctet s
  let s ← readChar '.' s
  let (b, s) ← readOctet s
  let s ← readChar '.' s
  let (c, s) ← readOctet s
  let s ← readChar '.' s
  let (d, s) ← readOctet s
  some ([a, b, c, d], s)

/-- Reads one to four hexadecimal digits. -/
def readGroup (s : List Char) : Option (Nat × List Char) :=
  let digits := s.takeWhile fun c => (hexDigit? c).isSome
  if digits.isEmpty || 4 < digits.length then none
  else some (digits.foldl (fun n c => n * 16 + (hexDigit? c).getD 0) 0, s.drop digits.length)

/-- Reads the colon that stands before every group but the first. -/
def readSeparator (first : Bool) (s : List Char) : Option (List Char) :=
  if first then some s else readChar ':' s

/-- What a run of groups read as: its groups, whether the last two were a version 4 address, and
the rest of the text. -/
structure Groups where
  groups : List Nat
  endsInV4 : Bool
  rest : List Char

/-- Reads at most `room` groups; the last two may be written as a version 4 address. -/
def readGroups : (room : Nat) → (first : Bool) → List Char → Groups
  | 0, _, s => ⟨[], false, s⟩
  | room + 1, first, s =>
    let v4 := if room = 0 then none else readSeparator first s >>= readV4
    match v4 with
    | some ([a, b, c, d], rest) => ⟨[a * 256 + b, c * 256 + d], true, rest⟩
    | _ =>
      match readSeparator first s >>= readGroup with
      | some (group, rest) =>
        let more := readGroups room false rest
        ⟨group :: more.groups, more.endsInV4, more.rest⟩
      | none => ⟨[], false, s⟩

/-- Reads eight groups, or fewer with two colons in place of the zeros left out. -/
def readV6 (s : List Char) : Option (List Nat × List Char) :=
  let head := readGroups 8 true s
  if head.groups.length = 8 then some (head.groups, head.rest)
  else if head.endsInV4 then none
  else do
    let rest ← readChar ':' head.rest >>= readChar ':'
    let tail := readGroups (8 - (head.groups.length + 1)) true rest
    let zeros := 8 - head.groups.length - tail.groups.length
    some (head.groups ++ List.replicate zeros 0 ++ tail.groups, tail.rest)

/-- Reads the port, which ends the text. -/
def readPort (address : Address) (s : List Char) : Option SocketAddress := do
  let rest ← readChar ':' s
  let (port, rest) ← readNumber 65536 rest
  if rest.isEmpty then some ⟨address, port⟩ else none

/-- Reads a version 6 address in brackets, with its zone, and a port. -/
def readBracketed (s : List Char) : Option SocketAddress := do
  let s ← readChar '[' s
  let (groups, s) ← readV6 s
  let (zone, s) ← match s with
    | '%' :: r => readNumber (Nat.pow 2 32) r
    | r => some (0, r)
  let s ← readChar ']' s
  readPort (.v6 groups zone) s

/-- Reads a whole text as a socket address. -/
def parse? (s : String) : Option SocketAddress :=
  match readV4 s.toList with
  | some (octets, rest) => readPort (.v4 octets) rest
  | none => readBracketed s.toList

/-! ## Writing -/

/-- The decimal digits of a number. -/
def digits (n : Nat) : List Char := Nat.toDigits 10 n

/-- Texts with a separator between them. -/
def joined (separator : Char) : List (List Char) → List Char
  | [] => []
  | [s] => s
  | s :: t :: rest => s ++ separator :: joined separator (t :: rest)

/-- A version 4 address. -/
def v4Text (octets : List Nat) : List Char := joined '.' (octets.map digits)

/-- Groups between colons. -/
def groupsText (groups : List Nat) : List Char := joined ':' (groups.map Quoted.hexDigits)

/-- The length of the run of zeros that some groups begin with. -/
def zeroRun (groups : List Nat) : Nat := (groups.takeWhile (· = 0)).length

/-- The start and the length of the first of the longest runs of zeros, from a position on. -/
def longestZeros : (position : Nat) → List Nat → Nat × Nat
  | _, [] => (0, 0)
  | position, g :: rest =>
    let later := longestZeros (position + 1) rest
    let here := zeroRun (g :: rest)
    if here ≠ 0 ∧ later.2 ≤ here then (position, here) else later

/-- A version 6 address. -/
def v6Text (groups : List Nat) : List Char :=
  match groups with
  | [0, 0, 0, 0, 0, 0xFFFF, high, low] =>
    "::ffff:".toList ++ v4Text [high / 256, high % 256, low / 256, low % 256]
  | _ =>
    let (start, length) := longestZeros 0 groups
    if 1 < length then
      groupsText (groups.take start) ++ "::".toList ++ groupsText (groups.drop (start + length))
    else groupsText groups

/-- The text of a socket address. -/
def text (a : SocketAddress) : String :=
  String.ofList <| match a.address with
    | .v4 octets => v4Text octets ++ ':' :: digits a.port
    | .v6 groups zone =>
      '[' :: v6Text groups ++ (if zone = 0 then [] else '%' :: digits zone) ++
        "]:".toList ++ digits a.port

example : (parse? "[::1%5]:0080").map text = some "[::1%5]:80" := by decide +kernel
example : (parse? "[1:0:0:2:0:0:0:3]:1").map text = some "[1:0:0:2::3]:1" := by decide +kernel
example : (parse? "[::ffff:1.2.3.4]:1").map text = some "[::ffff:1.2.3.4]:1" := by decide +kernel
example : parse? "01.2.3.4:5" = none ∧ parse? "1.2.3.4:65536" = none := by decide +kernel

end SocketAddress

end ProbeGateway
