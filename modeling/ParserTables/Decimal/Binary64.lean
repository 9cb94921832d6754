/-!
# Binary floating-point numbers

A finite binary64 number is a sign, a mantissa below `2 ^ 53` and an exponent from `-1074` to
`971`. `nearest?` rounds a fraction to the nearest such number, a tie to the even mantissa; it
has no value when the fraction is too large. Everything is exact arithmetic on natural numbers.
-/

namespace ParserTables.Decimal

/-- The number `mantissa * 2 ^ exponent`, negated when `negative` holds. -/
structure Binary64 where
  negative : Bool
  mantissa : Nat
  exponent : Int
deriving DecidableEq, Repr

namespace Binary64

/-- The least exponent, at which the numbers near zero stand. -/
def minExponent : Int := -1074

/-- The greatest exponent. -/
def maxExponent : Int := 971

/-- The bound of the mantissas. -/
def mantissaBound : Nat := 0x20000000000000

/-- The least mantissa with all 53 bits. -/
def fullMantissa : Nat := 0x10000000000000

/-- Positive zero. -/
def zero : Binary64 := ⟨false, 0, minExponent⟩

/-- The same magnitude with the given sign. -/
def withSign (negative : Bool) (x : Binary64) : Binary64 := { x with negative }

/-- The magnitude as a numerator and a denominator. -/
def fraction (x : Binary64) : Nat × Nat :=
  (x.mantissa * Nat.pow 2 x.exponent.toNat, Nat.pow 2 (-x.exponent).toNat)

/-- The quotient rounded to the nearest natural number, a tie to the even one. -/
def roundQuotient (num den : Nat) : Nat :=
  let q := num / den
  let r := num % den
  if 2 * r < den then q
  else if den < 2 * r then q + 1
  else if q % 2 = 0 then q else q + 1

/-- The quotient of `num / den` by `2 ^ exponent`, as a numerator and a denominator. -/
def unscale (num den : Nat) (exponent : Int) : Nat × Nat :=
  (num * Nat.pow 2 (-exponent).toNat, den * Nat.pow 2 exponent.toNat)

/-- The exponent at which a nonzero fraction has a 53-bit integer part, or the least exponent
when that is greater. -/
def scaleOf (num den : Nat) : Int :=
  let low : Int := Int.ofNat num.log2 - Int.ofNat den.log2 - 53
  let (n, d) := unscale num den low
  let e := if mantissaBound ≤ n / d then low + 1 else low
  max e minExponent

/-- The nonnegative number nearest to `num / den`, or nothing when that is out of range. -/
def nearest? (num den : Nat) : Option Binary64 :=
  if num = 0 then some zero
  else
    let e := scaleOf num den
    let (n, d) := unscale num den e
    let m := roundQuotient n d
    let (m, e) := if m = mantissaBound then (fullMantissa, e + 1) else (m, e)
    if maxExponent < e then none else some ⟨false, m, e⟩

/-- The product of two magnitudes, rounded. -/
def mul? (x y : Binary64) : Option Binary64 :=
  let (a, b) := x.fraction
  let (c, d) := y.fraction
  nearest? (a * c) (b * d)

/-- The quotient of two magnitudes, rounded. -/
def div? (x y : Binary64) : Option Binary64 :=
  let (a, b) := x.fraction
  let (c, d) := y.fraction
  nearest? (a * d) (b * c)

/-- The number nearest to a power of ten; the powers up to `10 ^ 308` are in range. -/
def powerOfTen (n : Nat) : Binary64 := (nearest? (Nat.pow 10 n) 1).getD zero

/-- A magnitude divided by `10 ^ n`, at most `10 ^ 308` at a time. An integer below `2 ^ 64`
has become zero after three such steps, so four of them are enough. -/
def divideByPower : Nat → Binary64 → Nat → Binary64
  | 0, _, _ => zero
  | steps + 1, x, n =>
    if n ≤ 308 then (x.div? (powerOfTen n)).getD zero
    else if x.mantissa = 0 then x
    else divideByPower steps ((x.div? (powerOfTen 308)).getD zero) (n - 308)

/-- The number `significand * 10 ^ exponent`, computed by one rounded multiplication or by
rounded divisions. It has no value when the multiplication overflows. -/
def ofDecimal? (significand : Nat) (exponent : Int) : Option Binary64 := do
  let x ← nearest? significand 1
  if x.mantissa = 0 then
    some x
  else
    match exponent with
    | .ofNat n => if n ≤ 308 then x.mul? (powerOfTen n) else none
    | .negSucc n => some (divideByPower 4 x (n + 1))

end Binary64

end ParserTables.Decimal
