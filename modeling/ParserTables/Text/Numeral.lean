/-!
# Numerals

Natural numbers and integers in decimal, natural numbers in hexadecimal with a least width.
-/

namespace ParserTables.Text

/-- The decimal digits of a natural number, without leading zeros. -/
def decimal (n : Nat) : List Char := Nat.toDigits 10 n

/-- An integer in decimal, with a minus sign in front of a negative one. -/
def signedDecimal : Int → List Char
  | .ofNat n => decimal n
  | .negSucc n => '-' :: decimal (n + 1)

/-- The hexadecimal digits of a natural number in lower case, filled up with zeros to
`width`. -/
def hex (width n : Nat) : List Char :=
  let digits := Nat.toDigits 16 n
  List.replicate (width - digits.length) '0' ++ digits

/-- The hexadecimal digits of a natural number in upper case, filled up with zeros to
`width`. -/
def upperHex (width n : Nat) : List Char := (hex width n).map Char.toUpper

/-- The value of a hexadecimal digit in either case. -/
def hexDigit? (c : Char) : Option Nat :=
  if c.isDigit then some (c.toNat - '0'.toNat)
  else if 'a' ≤ c ∧ c ≤ 'f' then some (c.toNat - 'a'.toNat + 10)
  else if 'A' ≤ c ∧ c ≤ 'F' then some (c.toNat - 'A'.toNat + 10)
  else none

/-- The value of a decimal digit. -/
def digitValue (c : Char) : Nat := c.toNat - '0'.toNat

/-- The natural number that decimal digits stand for. -/
def decimalValue (digits : List Char) : Nat :=
  digits.foldl (fun n c => 10 * n + digitValue c) 0

/-- The bound of the signed integers of 64 bits, which go from its negative to the number below
it. -/
def signedBound : Nat := 0x8000000000000000

/-- The bound of the unsigned integers of 64 bits. -/
def wordBound : Nat := 0x10000000000000000

end ParserTables.Text
