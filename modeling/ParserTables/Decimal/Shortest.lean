import ParserTables.Decimal.Binary64
import ParserTables.Text.Numeral

/-!
# The shortest decimal of a floating-point number

A floating-point number stands for all reals that round to it. Among the decimals in that
interval the ones with the fewest digits are chosen, and among those the nearest one. The
digits are laid out positionally for moderate exponents and in scientific form otherwise.
-/

namespace ParserTables.Decimal

open ParserTables.Text (decimal)

/-- The decimal `digits * 10 ^ exponent`. -/
structure Digits where
  digits : Nat
  exponent : Int
deriving DecidableEq, Repr

/-- Compare `a / b` with `c / d` for positive denominators. -/
def fractionLt (a b c d : Nat) : Bool := a * d < c * b

/-- The ends of the interval of reals that round to a positive number, over a common
denominator: the lower end, the upper end and the denominator. -/
def Binary64.bounds (x : Binary64) : Nat × Nat × Nat :=
  let (n, d) := Binary64.fraction { x with mantissa := 1 }
  let lower :=
    if x.mantissa = Binary64.fullMantissa ∧ Binary64.minExponent < x.exponent then
      4 * x.mantissa - 1
    else 4 * x.mantissa - 2
  (lower * n, (4 * x.mantissa + 2) * n, 4 * d)

/-- Whether a decimal rounds to the positive number `x`. The ends of the interval belong to it
when the mantissa is even. -/
def Binary64.covers (x : Binary64) (p : Digits) : Bool :=
  let (lower, upper, den) := x.bounds
  let num := p.digits * Nat.pow 10 p.exponent.toNat
  let scale := Nat.pow 10 (-p.exponent).toNat
  if x.mantissa % 2 = 0 then
    !fractionLt num scale lower den && !fractionLt upper den num scale
  else fractionLt lower den num scale && fractionLt num scale upper den

/-- The exponent of the leading decimal digit of a positive fraction. -/
def leadingExponent (num den : Nat) : Int :=
  if den ≤ num then Int.ofNat ((decimal (num / den)).length - 1)
  else
    match (List.range 400).find? fun j => den ≤ num * Nat.pow 10 (j + 1) with
    | some j => -(Int.ofNat (j + 1))
    | none => 0

/-- The nearer of the two neighbours of `x` with `count` digits that round to `x`, if any. -/
def Binary64.withDigits? (x : Binary64) (count : Nat) : Option Digits :=
  let (num, den) := x.fraction
  let e := leadingExponent num den + 1 - Int.ofNat count
  let n := num * Nat.pow 10 (-e).toNat
  let d := den * Nat.pow 10 e.toNat
  let low : Digits := ⟨n / d, e⟩
  let high : Digits := ⟨n / d + 1, e⟩
  let nearer := if Binary64.roundQuotient n d = n / d then [low, high] else [high, low]
  nearer.find? x.covers

/-- Trailing zeros moved into the exponent. -/
def Digits.stripZeros : Nat → Digits → Digits
  | 0, p => p
  | steps + 1, p =>
    if p.digits % 10 = 0 ∧ p.digits ≠ 0 then
      Digits.stripZeros steps ⟨p.digits / 10, p.exponent + 1⟩
    else p

/-- The shortest decimal that rounds to the positive number `x`, nearest to `x` among those of
its length. Seventeen digits always suffice. -/
def Binary64.shortest (x : Binary64) : Digits :=
  match (List.range 17).findSome? fun k => x.withDigits? (k + 1) with
  | some p => p.stripZeros 20
  | none => ⟨x.mantissa, 0⟩

/-- Scientific form: one digit before the point, and the exponent with its sign. -/
def scientific (digits : List Char) (e : Int) : List Char :=
  let fraction :=
    match digits with
    | d :: [] => [d]
    | d :: rest => d :: '.' :: rest
    | [] => []
  fraction ++ ['e', if e < 0 then '-' else '+'] ++ decimal e.natAbs

/-- Positional form with at least one digit after the point, for a leading exponent from `-5`
to `15`; scientific form otherwise. -/
def layout (p : Digits) : List Char :=
  let digits := decimal p.digits
  let e := p.exponent + Int.ofNat digits.length - 1
  if 0 ≤ e ∧ e < 16 then
    let whole := e.toNat + 1
    if digits.length ≤ whole then
      digits ++ List.replicate (whole - digits.length) '0' ++ ['.', '0']
    else digits.take whole ++ '.' :: digits.drop whole
  else if -5 ≤ e ∧ e < 0 then
    ['0', '.'] ++ List.replicate ((-e).toNat - 1) '0' ++ digits
  else scientific digits e

/-- The text of a floating-point number. -/
def Binary64.text (x : Binary64) : List Char :=
  let magnitude := if x.mantissa = 0 then ['0', '.', '0'] else layout x.shortest
  if x.negative then '-' :: magnitude else magnitude

end ParserTables.Decimal
