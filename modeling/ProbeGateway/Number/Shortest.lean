import ProbeGateway.Number.Binary64

/-!
# The shortest decimal text of a number

`Binary64.shortest` finds the fewest significant digits that read back as the same number, and of
the decimals with that many digits the nearest one. `NumberStyle` says how such digits are laid out;
each place that writes numbers has a style of its own.
-/

namespace ProbeGateway

namespace Binary64

/-! ## The digits -/

/-- How many decimal digits a number has. -/
def digitCount (n : Nat) : Nat := (Nat.toDigits 10 n).length

/-- The exponent of the leading decimal digit of a positive fraction. -/
def leadingExponent (num den : Nat) : Int :=
  if den ≤ num then (digitCount (num / den) : Int) - 1
  else -(digitCount ((den + num - 1) / num - 1) : Int)

/-- The numbers that read back as `significand · 2 ^ exponent`, in quarters of the last place. -/
structure Rounding where
  low : Nat
  value : Nat
  high : Nat
  /-- Whether the two ends belong to the interval. -/
  closed : Bool

/-- The interval around a number whose decimals all read back as that number. -/
def roundingOf (significand : Nat) (exponent : Int) : Rounding where
  low := if significand = leastFull ∧ minExponent < exponent then 4 * significand - 1
    else 4 * significand - 2
  value := 4 * significand
  high := 4 * significand + 2
  closed := significand % 2 = 0

/-- Whether a decimal reads back, when it and the interval are on one scale. -/
def Rounding.contains (i : Rounding) (quarter decimal : Nat) : Bool :=
  if i.closed then i.low * quarter ≤ decimal && decimal ≤ i.high * quarter
  else i.low * quarter < decimal && decimal < i.high * quarter

/-- The decimal with the last place `10 ^ place` that reads back and is nearest, if there is one. -/
def nearestAt (i : Rounding) (exponent place : Int) : Option Nat :=
  let unit := pow10 place * pow2 (2 - exponent)
  let quarter := pow10 (-place) * pow2 (exponent - 2)
  let below := i.value * quarter / unit
  let above := below + 1
  let lowOk := i.contains quarter (below * unit)
  let highOk := i.contains quarter (above * unit)
  let toBelow := i.value * quarter - below * unit
  let toAbove := above * unit - i.value * quarter
  if lowOk && highOk then
    some (if toBelow < toAbove then below else if toAbove < toBelow then above
      else if below % 2 = 0 then below else above)
  else if lowOk then some below
  else if highOk then some above
  else none

/-- The digits and the last place of the shortest decimal of at least `17 - tries + 1` digits. -/
def searchShortest (i : Rounding) (exponent leading : Int) : (tries : Nat) → Nat × Int
  | 0 => ((nearestAt i exponent (leading - 17)).getD 0, leading - 17)
  | tries + 1 =>
    let place := leading - (16 - (tries : Int))
    match nearestAt i exponent place with
    | some digits => (digits, place)
    | none => searchShortest i exponent leading tries

/-- A decimal without its trailing zeros. -/
def stripZeros : (fuel digits : Nat) → (place : Int) → Nat × Int
  | 0, digits, place => (digits, place)
  | fuel + 1, digits, place =>
    if digits ≠ 0 ∧ digits % 10 = 0 then stripZeros fuel (digits / 10) (place + 1)
    else (digits, place)

/-- The fewest digits, and the place of the last, that read back as a positive finite number. -/
def shortest (significand : Nat) (exponent : Int) : Nat × Int :=
  let leading := leadingExponent (4 * significand * pow2 (exponent - 2)) (pow2 (2 - exponent))
  let (digits, place) := searchShortest (roundingOf significand exponent) exponent leading 17
  stripZeros 20 digits place

end Binary64

/-! ## Laying the digits out -/

/-- How the digits of a number are laid out. -/
structure NumberStyle where
  /-- The leading exponents that are written without an exponent part; `none` is all of them. -/
  positional : Option (Int × Int)
  /-- Whether an exponent that is not negative gets a plus sign. -/
  exponentPlus : Bool
  /-- Whether a whole number written positionally ends in a point and a zero. -/
  pointZero : Bool

namespace NumberStyle

/-- Numbers of a JSON text: a point or an exponent always shows that the number is not an
integer. -/
def json : NumberStyle := ⟨some (-5, 15), true, true⟩

/-- Sums and bounds of the exposition format, and settings: never an exponent. -/
def plain : NumberStyle := ⟨none, false, false⟩

/-- Numbers among the fields of a line of log text. -/
def logField : NumberStyle := ⟨some (-4, 15), false, true⟩

/-- A positive decimal written without an exponent part. -/
def positionalText (style : NumberStyle) (digits : List Char) (place : Int) : List Char :=
  if 0 ≤ place then
    digits ++ List.replicate place.toNat '0' ++ (if style.pointZero then ['.', '0'] else [])
  else
    let fraction := (-place).toNat
    if fraction < digits.length then
      digits.take (digits.length - fraction) ++ '.' :: digits.drop (digits.length - fraction)
    else '0' :: '.' :: List.replicate (fraction - digits.length) '0' ++ digits

/-- A positive decimal written with an exponent part. -/
def exponentText (style : NumberStyle) (digits : List Char) (leading : Int) : List Char :=
  let mantissa := match digits with
    | d :: e :: r => d :: '.' :: e :: r
    | ds => ds
  let sign := if leading < 0 then ['-'] else if style.exponentPlus then ['+'] else []
  mantissa ++ 'e' :: sign ++ Nat.toDigits 10 leading.natAbs

/-- The text of a number's magnitude when it is finite. -/
def magnitudeText (style : NumberStyle) (significand : Nat) (exponent : Int) : List Char :=
  if significand = 0 then '0' :: if style.pointZero then ['.', '0'] else []
  else
    let (digits, place) := Binary64.shortest significand exponent
    let digits := Nat.toDigits 10 digits
    let leading : Int := place + digits.length - 1
    match style.positional with
    | none => style.positionalText digits place
    | some (lowest, highest) =>
      if lowest ≤ leading ∧ leading ≤ highest then style.positionalText digits place
      else style.exponentText digits leading

/-- The text of a number. -/
def write (style : NumberStyle) : Binary64 → List Char
  | .nan => ['N', 'a', 'N']
  | .infinity negative => if negative then ['-', 'i', 'n', 'f'] else ['i', 'n', 'f']
  | .finite negative significand exponent =>
    let text := style.magnitudeText significand exponent
    if negative then '-' :: text else text

/-- The text of a number, as a string. -/
def text (style : NumberStyle) (x : Binary64) : String := String.ofList (style.write x)

example : json.text (.ofDecimal false 1 16) = "1e+16" := by decide +kernel
example : json.text (.ofDecimal false 1 15) = "1000000000000000.0" := by decide +kernel
example : json.text (.ofDecimal true 15 (-8)) = "-1.5e-7" := by decide +kernel
example : json.text (.ofDecimal false 1 (-5)) = "0.00001" := by decide +kernel
example : json.text (.finite false 1 (-1074)) = "5e-324" := by decide +kernel
example : json.text (.zero true) = "-0.0" := by decide +kernel
example : plain.text (.ofDecimal false 5 (-3)) = "0.005" := by decide +kernel
example : plain.text (.ofDecimal false 10 0) = "10" := by decide +kernel

end NumberStyle

end ProbeGateway
