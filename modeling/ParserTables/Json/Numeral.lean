import ParserTables.Json.Problem
import ParserTables.Text.Numeral

/-!
# Number literals

A literal is scanned first, which fixes its form and its end, and evaluated afterwards. An
integer literal that fits into 64 bits is an integer. Any other literal is a floating-point
number, made from at most as many digits as fit into 64 bits and a power of ten.
-/

namespace ParserTables.Json

open ParserTables.Text (decimalValue digitValue signedBound wordBound)
open ParserTables.Decimal (Binary64)

/-- The parts of a number literal: its sign, the digits before the point, the digits after it,
and the exponent with its sign. -/
structure Literal where
  negative : Bool
  whole : List Char
  fraction : Option (List Char)
  exponent : Option (Bool × List Char)
deriving DecidableEq, Repr

/-- How a literal goes wrong: it is followed by the wrong character, or by the end of the
text. -/
inductive LiteralFault where
  | malformed
  | cutOff
deriving DecidableEq, Repr

/-- What a reader that wants the number objects to. -/
def LiteralFault.problem : LiteralFault → Problem
  | .malformed => .invalidNumber
  | .cutOff => .eofInValue

namespace Literal

/-- The fault of a literal that needs a digit before `rest`. -/
def faultAt (rest : List Char) : LiteralFault :=
  if rest.isEmpty then .cutOff else .malformed

/-- One digit or more, and what follows them. -/
def scanDigits (cs : List Char) : Except LiteralFault (List Char × List Char) :=
  let digits := cs.takeWhile Char.isDigit
  if digits.isEmpty then .error (faultAt cs) else .ok (digits, cs.dropWhile Char.isDigit)

/-- The digits before the point: a single zero, or digits that do not start with zero. -/
def scanWhole (cs : List Char) : Except LiteralFault (List Char × List Char) :=
  match cs with
  | '0' :: c :: rest => if c.isDigit then .error .malformed else .ok (['0'], c :: rest)
  | cs => scanDigits cs

/-- The point and the digits after it, if there is a point. -/
def scanFraction (cs : List Char) : Except LiteralFault (Option (List Char) × List Char) :=
  match cs with
  | '.' :: rest => (scanDigits rest).map fun p => (some p.1, p.2)
  | cs => .ok (none, cs)

/-- The sign of an exponent; `true` stands for a minus sign. -/
def scanSign (cs : List Char) : Bool × List Char :=
  match cs with
  | '+' :: rest => (false, rest)
  | '-' :: rest => (true, rest)
  | cs => (false, cs)

/-- The exponent, if there is one. -/
def scanExponent (cs : List Char) :
    Except LiteralFault (Option (Bool × List Char) × List Char) :=
  match cs with
  | c :: rest =>
    if c = 'e' ∨ c = 'E' then
      let signed := scanSign rest
      (scanDigits signed.2).map fun p => (some (signed.1, p.1), p.2)
    else .ok (none, c :: rest)
  | [] => .ok (none, [])

/-- A literal after its sign, and what follows it. -/
def scanUnsigned (negative : Bool) (cs : List Char) :
    Except LiteralFault (Literal × List Char) := do
  let (whole, cs) ← scanWhole cs
  let (fraction, cs) ← scanFraction cs
  let (exponent, cs) ← scanExponent cs
  return (⟨negative, whole, fraction, exponent⟩, cs)

/-- A literal and what follows it. -/
def scan (cs : List Char) : Except LiteralFault (Literal × List Char) :=
  match cs with
  | '-' :: rest => scanUnsigned true rest
  | cs => scanUnsigned false cs

/-- Take digits into `n` as long as it stays within 64 bits. The result holds the number and
the digits that did not fit. -/
def absorb (n : Nat) : List Char → Nat × List Char
  | [] => (n, [])
  | c :: rest =>
    if 10 * n + digitValue c < wordBound then absorb (10 * n + digitValue c) rest
    else (n, c :: rest)

/-- The value of an exponent part. -/
def exponentValue : Option (Bool × List Char) → Int
  | none => 0
  | some (false, digits) => decimalValue digits
  | some (true, digits) => -decimalValue digits

/-- The floating-point value of a literal. Digits before the point that do not fit raise the
power of ten; digits after the point that do not fit are dropped. -/
def floatingValue (l : Literal) : Except Problem Number :=
  let (significand, dropped) := absorb 0 l.whole
  let (significand, places) :=
    match l.fraction with
    | none => (significand, 0)
    | some digits =>
      let (extended, rest) := absorb significand digits
      (extended, digits.length - rest.length)
  let exponent := Int.ofNat dropped.length - Int.ofNat places + exponentValue l.exponent
  match Binary64.ofDecimal? significand exponent with
  | some x => .ok (.floating (x.withSign l.negative))
  | none => .error .numberOutOfRange

/-- The value of a literal. -/
def value (l : Literal) : Except Problem Number :=
  match l.fraction, l.exponent with
  | none, none =>
    let n := decimalValue l.whole
    if l.negative then
      if 0 < n ∧ n ≤ signedBound then .ok (.integer (-Int.ofNat n)) else floatingValue l
    else if n < wordBound then .ok (.integer (Int.ofNat n))
    else floatingValue l
  | _, _ => floatingValue l

end Literal

end ParserTables.Json
