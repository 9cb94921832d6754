import ParserTables.Decimal.Binary64
import ParserTables.Text.Numeral
import ParserTables.Text.Split
import ParserTables.Toml.Node

/-!
# Numbers, dates and words

The scalar values of a configuration document that are not strings. A scalar is a run of
characters that other values cannot be told from until it is complete, so the whole run is taken
first and classified afterwards. Only between a date and its time a blank belongs to the run.
-/

namespace ParserTables.Toml.Scalar

open ParserTables.Text (hexDigit? signedBound pieces cutAtFirst?)
open ParserTables.Decimal (Binary64)

/-- A character that may stand in a scalar. -/
def isRunChar (c : Char) : Bool :=
  c.isAlphanum || c == '+' || c == '-' || c == '_' || c == '.' || c == ':'

/-- Digits with single underscores between them; `isDigit` says which characters are digits.
The result leaves the underscores out. -/
def grouped (isDigit : Char → Bool) (cs : List Char) : Option (List Char) :=
  let parts := pieces '_' cs
  if parts.all fun p => !p.isEmpty && p.all isDigit then some parts.flatten else none

/-- The number that digits stand for in a base up to sixteen. -/
def valueIn (base : Nat) (cs : List Char) : Nat :=
  cs.foldl (fun n c => n * base + (hexDigit? c).getD 0) 0

/-- A sign, if there is one, and what follows it; `true` stands for a minus sign. -/
def sign : List Char → Bool × List Char
  | '+' :: rest => (false, rest)
  | '-' :: rest => (true, rest)
  | cs => (false, cs)

/-- Decimal digits that do not start with a zero, unless there is only one. -/
def wholeDigits (cs : List Char) : Option (List Char) := do
  let digits ← grouped Char.isDigit cs
  match digits with
  | '0' :: _ :: _ => none
  | digits => some digits

/-- A decimal integer with 64 bits. -/
def decimal? (cs : List Char) : Option Int := do
  let (negative, cs) := sign cs
  let digits ← wholeDigits cs
  let n := valueIn 10 digits
  if negative then
    if n ≤ signedBound then some (-Int.ofNat n) else none
  else if n < signedBound then some (Int.ofNat n)
  else none

/-- An integer in another base, after its mark. -/
def based? (base : Nat) (isDigit : Char → Bool) (cs : List Char) : Option Int := do
  let digits ← grouped isDigit cs
  let n := valueIn base digits
  if n < signedBound then some (Int.ofNat n) else none

/-- An integer. -/
def integer? (cs : List Char) : Option Int :=
  match cs with
  | '0' :: 'x' :: rest => based? 16 (fun c => (hexDigit? c).isSome) rest
  | '0' :: 'o' :: rest => based? 8 (fun c => '0' ≤ c ∧ c ≤ '7') rest
  | '0' :: 'b' :: rest => based? 2 (fun c => c = '0' ∨ c = '1') rest
  | cs => decimal? cs

/-- The exponent of a floating-point number and what stands before it. -/
def splitExponent (cs : List Char) : Option (List Char × Option Int) :=
  match cs.span fun c => c != 'e' && c != 'E' with
  | (_, []) => some (cs, none)
  | (front, _ :: rest) => do
    let (negative, rest) := sign rest
    let digits ← grouped Char.isDigit rest
    let n := Int.ofNat (valueIn 10 digits)
    return (front, some (if negative then -n else n))

/-- Whether the number that digits stand for, times `10 ^ exponent`, rounds to a floating-point
number. With `n` digits after the leading zeros it lies between `10 ^ (n + exponent - 1)` and
`10 ^ (n + exponent)`, so it is only computed when that does not settle the question. -/
def inRange (digits : List Char) (exponent : Int) : Bool :=
  let digits := digits.dropWhile (· == '0')
  let magnitude := Int.ofNat digits.length + exponent
  if digits.isEmpty ∨ magnitude ≤ 308 then true
  else if 309 < magnitude then false
  else (Binary64.nearest? (valueIn 10 digits * Nat.pow 10 exponent.toNat)
    (Nat.pow 10 (-exponent).toNat)).isSome

/-- A floating-point number with a fraction or an exponent. A positive number must not be too
large. -/
def isDecimalFloat (cs : List Char) : Bool :=
  let (negative, cs) := sign cs
  (do
    let (front, exponent) ← splitExponent cs
    match cutAtFirst? '.' front with
    | some (whole, fraction) =>
      let whole ← wholeDigits whole
      let fraction ← grouped Char.isDigit fraction
      return negative || inRange (whole ++ fraction)
        (exponent.getD 0 - Int.ofNat fraction.length)
    | none =>
      let exponent ← exponent
      let whole ← wholeDigits front
      return negative || inRange whole exponent : Option Bool).getD false

/-- A floating-point number. -/
def isFloat (cs : List Char) : Bool :=
  let word := (sign cs).2
  word == ['i', 'n', 'f'] || word == ['n', 'a', 'n'] || isDecimalFloat cs

/-- A number written with exactly `count` digits. -/
def fixed? (count : Nat) (cs : List Char) : Option Nat :=
  if cs.length = count ∧ cs.all Char.isDigit then some (valueIn 10 cs) else none

/-- The number of days of a month. -/
def daysIn (year month : Nat) : Nat :=
  if month = 2 then
    if year % 4 = 0 ∧ (year % 100 ≠ 0 ∨ year % 400 = 0) then 29 else 28
  else if month = 4 ∨ month = 6 ∨ month = 9 ∨ month = 11 then 30
  else 31

/-- A date: year, month and day. -/
def isDate (cs : List Char) : Bool :=
  match pieces '-' cs with
  | [year, month, day] =>
    match fixed? 4 year, fixed? 2 month, fixed? 2 day with
    | some y, some m, some d => 1 ≤ m && m ≤ 12 && 1 ≤ d && d ≤ daysIn y m
    | _, _, _ => false
  | _ => false

/-- Seconds, with a fraction or without. -/
def isSeconds (cs : List Char) : Bool :=
  let (whole, fraction) :=
    match cutAtFirst? '.' cs with
    | some (whole, fraction) => (whole, !fraction.isEmpty && fraction.all Char.isDigit)
    | none => (cs, true)
  fraction && (fixed? 2 whole).any (· ≤ 60)

/-- A time of day: hour, minute and second. -/
def isTime (cs : List Char) : Bool :=
  match pieces ':' cs with
  | [hour, minute, second] =>
    (fixed? 2 hour).any (· ≤ 23) && (fixed? 2 minute).any (· ≤ 59) && isSeconds second
  | _ => false

/-- A time difference: hours and minutes. -/
def isOffset (cs : List Char) : Bool :=
  match pieces ':' cs with
  | [hour, minute] => (fixed? 2 hour).any (· ≤ 23) && (fixed? 2 minute).any (· ≤ 59)
  | _ => false

/-- A time of day, with a time difference or without. -/
def isZonedTime (cs : List Char) : Bool :=
  match cs.span fun c => c != '+' && c != '-' && c != 'Z' && c != 'z' with
  | (time, []) => isTime time
  | (time, c :: rest) => isTime time && (if c = 'Z' ∨ c = 'z' then rest.isEmpty else isOffset rest)

/-- A date with a time, a date, or a time. -/
def isMoment (cs : List Char) : Bool :=
  let date := cs.take 10
  match cs.drop 10 with
  | [] => isDate cs || isTime cs
  | c :: rest =>
    if c = 'T' ∨ c = 't' ∨ c = ' ' then isDate date && isZonedTime rest else isTime cs

/-- The value of a complete run. -/
def classify (cs : List Char) : Option Node :=
  if cs = ['t', 'r', 'u', 'e'] then some (.boolean true)
  else if cs = ['f', 'a', 'l', 's', 'e'] then some (.boolean false)
  else if isMoment cs then some (.moment (String.ofList cs))
  else if isFloat cs then some (.floating (String.ofList cs))
  else (integer? cs).map .integer

/-- A scalar and what follows it. -/
def scan (cs : List Char) : Option (Node × List Char) :=
  let run := cs.takeWhile isRunChar
  let rest := cs.dropWhile isRunChar
  match rest with
  | ' ' :: c :: more =>
    if isDate run ∧ c.isDigit then do
      let node ← classify (run ++ ' ' :: (c :: more).takeWhile isRunChar)
      return (node, (c :: more).dropWhile isRunChar)
    else (classify run).map (·, rest)
  | rest => (classify run).map (·, rest)

end ParserTables.Toml.Scalar
