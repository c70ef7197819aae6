/-!
# Double-precision numbers

A finite number is a sign, a significand below `2 ^ 53` and an exponent of two. Everything that can
round does so in one place, `Binary64.ofRatio`, which gives the number nearest to an exact fraction
and the even one of two that are equally near.

A decimal numeral is read in one of two ways: as the number nearest to it (`ofDecimal`), or by
scaling the number nearest to its digits (`ofParts?`), which rounds more than once and may miss the
nearest by a little.
-/

namespace ProbeGateway

/-- A double-precision number: `±significand · 2 ^ exponent`, an infinity, or no number. -/
inductive Binary64
  | nan
  | infinity (negative : Bool)
  | finite (negative : Bool) (significand : Nat) (exponent : Int)
deriving DecidableEq, Repr

namespace Binary64

/-- The exponent of the smallest positive number. -/
def minExponent : Int := -1074

/-- The exponent of the largest finite numbers. -/
def maxExponent : Int := 971

/-- Zero, with a sign. -/
def zero (negative : Bool) : Binary64 := .finite negative 0 minExponent

/-- `2 ^ e` for an exponent that is not negative, one for any other. -/
def pow2 (e : Int) : Nat := Nat.pow 2 e.toNat

/-- `10 ^ e` for an exponent that is not negative, one for any other. -/
def pow10 (e : Int) : Nat := Nat.pow 10 e.toNat

/-- The least number that takes 53 bits. -/
def leastFull : Nat := Nat.pow 2 52

/-- The least number that takes more than 53 bits. -/
def leastOver : Nat := Nat.pow 2 53

/-! ## Rounding -/

/-- The integer nearest to a fraction; of two equally near, the even one. -/
def roundHalfEven (num den : Nat) : Nat :=
  let q := num / den
  let r := num % den
  if 2 * r < den then q
  else if den < 2 * r then q + 1
  else if q % 2 = 0 then q else q + 1

/-- The exponent at which a positive fraction has a 53-bit integer part, or the least exponent. -/
def exponentFor (num den : Nat) : Int :=
  let guess : Int := max ((num.log2 : Int) - (den.log2 : Int) - 53) minExponent
  if num * pow2 (-guess) / (den * pow2 guess) < leastOver then guess else guess + 1

/-- The number nearest to the fraction `num / den`, with the given sign. -/
def ofRatio (negative : Bool) (num den : Nat) : Binary64 :=
  if num = 0 then zero negative
  else
    let e := exponentFor num den
    let m := roundHalfEven (num * pow2 (-e)) (den * pow2 e)
    let (m, e) := if m = leastOver then (leastFull, e + 1) else (m, e)
    if maxExponent < e then .infinity negative else .finite negative m e

/-- The number nearest to an integer. -/
def ofNat (n : Nat) : Binary64 := ofRatio false n 1

/-- The number nearest to `digits · 10 ^ exponent`, with the given sign. -/
def ofDecimal (negative : Bool) (digits : Nat) (exponent : Int) : Binary64 :=
  let places : Int := (Nat.toDigits 10 digits).length
  if digits = 0 then zero negative
  else if 310 < places + exponent then .infinity negative
  else if places + exponent < -330 then zero negative
  else ofRatio negative (digits * pow10 exponent) (pow10 (-exponent))

/-! ## Comparing and adding -/

/-- A finite number as a whole multiple of `2 ^ unit`, for a unit not above its exponent. -/
def scaled (negative : Bool) (significand : Nat) (exponent unit : Int) : Int :=
  let n : Int := significand * pow2 (exponent - unit)
  if negative then -n else n

/-- Whether one number is at most another; false when either is no number. -/
def le : Binary64 → Binary64 → Bool
  | nan, _ => false
  | _, nan => false
  | infinity true, _ => true
  | _, infinity false => true
  | infinity false, _ => false
  | _, infinity true => false
  | finite s m e, finite s' m' e' =>
    let unit := min e e'
    scaled s m e unit ≤ scaled s' m' e' unit

/-- The number nearest to the sum of two numbers. -/
def add : Binary64 → Binary64 → Binary64
  | nan, _ => nan
  | _, nan => nan
  | infinity s, infinity s' => if s = s' then infinity s else nan
  | infinity s, _ => infinity s
  | _, infinity s => infinity s
  | finite s m e, finite s' m' e' =>
    let unit := min e e'
    let sum := scaled s m e unit + scaled s' m' e' unit
    if sum = 0 then zero (s && s')
    else ofRatio (decide (sum < 0)) (sum.natAbs * pow2 unit) (pow2 (-unit))

/-- Whether a number is infinite. -/
def isInfinite : Binary64 → Bool
  | infinity _ => true
  | _ => false

/-- Whether a number is a zero, of either sign. -/
def isZero : Binary64 → Bool
  | finite _ m _ => m = 0
  | _ => false

/-- A number with the other sign. -/
def neg : Binary64 → Binary64
  | nan => nan
  | infinity s => infinity (!s)
  | finite s m e => finite (!s) m e

/-! ## Multiplying and dividing -/

/-- The number nearest to the fraction `num / den` times `2 ^ exponent`, with the given sign. -/
def ofScaledRatio (negative : Bool) (num den : Nat) (exponent : Int) : Binary64 :=
  ofRatio negative (num * pow2 exponent) (den * pow2 (-exponent))

/-- The number nearest to the product of two numbers. -/
def mul : Binary64 → Binary64 → Binary64
  | nan, _ => nan
  | _, nan => nan
  | infinity s, infinity s' => infinity (s ^^ s')
  | infinity s, finite s' m _ => if m = 0 then nan else infinity (s ^^ s')
  | finite s m _, infinity s' => if m = 0 then nan else infinity (s ^^ s')
  | finite s m e, finite s' m' e' => ofScaledRatio (s ^^ s') (m * m') 1 (e + e')

/-- The number nearest to the quotient of two numbers. -/
def div : Binary64 → Binary64 → Binary64
  | nan, _ => nan
  | _, nan => nan
  | infinity _, infinity _ => nan
  | infinity s, finite s' _ _ => infinity (s ^^ s')
  | finite s _ _, infinity s' => zero (s ^^ s')
  | finite s m e, finite s' m' e' =>
    if m' = 0 then if m = 0 then nan else infinity (s ^^ s')
    else ofScaledRatio (s ^^ s') m m' (e - e')

/-! ## Scaling by powers of ten -/

/-- The largest power of ten that is finite. -/
def maxPowerOfTen : Nat := 308

/-- The number nearest to a power of ten. -/
def powerOfTen (n : Nat) : Binary64 := ofDecimal false 1 n

/-- A number divided by `10 ^ n`, and rounded; more than one division, each of which rounds, where
the power of ten is too large for one. -/
def scaledDown : (fuel n : Nat) → Binary64 → Binary64
  | 0, _, x => x
  | fuel + 1, n, x =>
    if n ≤ maxPowerOfTen then x.div (powerOfTen n)
    else if x.isZero then x
    else scaledDown fuel (n - maxPowerOfTen) (x.div (powerOfTen maxPowerOfTen))

/-- `significand · 10 ^ exponent`, where the significand is rounded before it is scaled, and the
outcome once more; none if it is too large, or if the power of ten is. -/
def ofParts? (significand : Nat) (exponent : Int) : Option Binary64 :=
  let x := ofNat significand
  if exponent < 0 then some (scaledDown (exponent.natAbs + 1) exponent.natAbs x)
  else if exponent ≤ maxPowerOfTen then
    let x := x.mul (powerOfTen exponent.natAbs)
    if x.isInfinite then none else some x
  else if x.isZero then some x
  else none

example : ofDecimal false 1 (-1) = .finite false 7205759403792794 (-56) := by decide +kernel
example : ofDecimal false 5 (-324) = .finite false 1 (-1074) := by decide +kernel
example : ofDecimal false 2 (-324) = zero false := by decide +kernel
example : ofDecimal false 18 307 = .infinity false := by decide +kernel
example : ofDecimal true 9007199254740993 0 = .finite true 4503599627370496 1 := by decide +kernel
example : ofParts? 11158197075466303 (-15) = some (ofDecimal false 11158197075466305 (-15)) := by
  decide +kernel
example : ofParts? 17976931348623158 292 = none := by decide +kernel
example : ofParts? 5 (-324) = some (ofDecimal false 5 (-324)) := by decide +kernel
example : ofParts? 1 (-2147483647) = some (zero false) := by decide +kernel

end Binary64

end ProbeGateway
