import ParserTables.Json.Problem
import ParserTables.Text.Numeral

/-!
# String literals

What stands between the double quotes of a JSON string. The strict reading gives the characters
that the literal stands for. Passing over the literal only checks that each escape has a known
letter and, after `\u`, four hexadecimal digits.

Both work from the character after the opening quote, and both hand on what follows the closing
quote.
-/

namespace ParserTables.Json.StringLiteral

open ParserTables.Text (hexDigit?)

/-- The character that a one-letter escape stands for. -/
def simpleEscape? (c : Char) : Option Char :=
  if c = '\x22' ∨ c = '\\' ∨ c = '/' then some c
  else if c = 'b' then some '\x08'
  else if c = 'f' then some '\x0c'
  else if c = 'n' then some '\n'
  else if c = 'r' then some '\r'
  else if c = 't' then some '\t'
  else none

/-- The number of bytes that the first four characters take up. -/
def leadingBytes (cs : List Char) : Nat :=
  (cs.take 4).foldl (fun n c => n + c.utf8Size) 0

/-- The value of four hexadecimal digits and what follows them. A text of fewer than four
bytes ends too early, whatever its characters are. -/
def hexQuad (cs : List Char) : Except Problem (Nat × List Char) :=
  if leadingBytes cs < 4 then .error .eofInString
  else
    match cs with
    | a :: b :: c :: d :: rest =>
      match hexDigit? a, hexDigit? b, hexDigit? c, hexDigit? d with
      | some a, some b, some c, some d => .ok (((a * 16 + b) * 16 + c) * 16 + d, rest)
      | _, _, _, _ => .error .invalidEscape
    | _ => .error .invalidEscape

/-- A code unit that begins a surrogate pair. -/
def isHighSurrogate (n : Nat) : Bool := 0xD800 ≤ n && n ≤ 0xDBFF

/-- A code unit that ends a surrogate pair. -/
def isLowSurrogate (n : Nat) : Bool := 0xDC00 ≤ n && n ≤ 0xDFFF

/-- The second half of a surrogate pair whose first half is `high`. -/
def lowHalf (high : Nat) (cs : List Char) : Except Problem (Char × List Char) :=
  match cs with
  | [] => .error .eofInString
  | '\\' :: [] => .error .eofInString
  | '\\' :: 'u' :: rest =>
    match hexQuad rest with
    | .error p => .error p
    | .ok (low, rest) =>
      if isLowSurrogate low then
        .ok (Char.ofNat ((high - 0xD800) * 0x400 + (low - 0xDC00) + 0x10000), rest)
      else .error .loneSurrogate
  | _ => .error .unfinishedSurrogate

/-- The character of an escape whose letter is `u`, and what follows it. -/
def unicodeEscape (cs : List Char) : Except Problem (Char × List Char) :=
  match hexQuad cs with
  | .error p => .error p
  | .ok (n, rest) =>
    if isLowSurrogate n then .error .loneSurrogate
    else if isHighSurrogate n then lowHalf n rest
    else .ok (Char.ofNat n, rest)

/-- The character of an escape, after the backslash, and what follows it. -/
def escape (cs : List Char) : Except Problem (Char × List Char) :=
  match cs with
  | [] => .error .eofInString
  | c :: rest =>
    if c = 'u' then unicodeEscape rest
    else
      match simpleEscape? c with
      | some d => .ok (d, rest)
      | none => .error .invalidEscape

/-- What follows an escape that is passed over. -/
def passEscape (cs : List Char) : Except Problem (List Char) :=
  match cs with
  | [] => .error .eofInString
  | c :: rest =>
    if c = 'u' then (hexQuad rest).map (·.2)
    else if (simpleEscape? c).isSome then .ok rest
    else .error .invalidEscape

/-- The strict reading: the characters of the literal and what follows it. `steps` bounds the
number of characters and escapes, so the length of the text is always enough. -/
def read (steps : Nat) (cs : List Char) : Except Problem (List Char × List Char) :=
  match steps, cs with
  | 0, _ => .error .eofInString
  | _, [] => .error .eofInString
  | steps + 1, c :: rest =>
    if c = '\x22' then .ok ([], rest)
    else if c = '\\' then
      match escape rest with
      | .error p => .error p
      | .ok (d, rest) => (read steps rest).map fun p => (d :: p.1, p.2)
    else if c.toNat < 0x20 then .error .controlCharacter
    else (read steps rest).map fun p => (c :: p.1, p.2)

/-- Passing over: what follows the literal. -/
def pass (steps : Nat) (cs : List Char) : Except Problem (List Char) :=
  match steps, cs with
  | 0, _ => .error .eofInString
  | _, [] => .error .eofInString
  | steps + 1, c :: rest =>
    if c = '\x22' then .ok rest
    else if c = '\\' then
      match passEscape rest with
      | .error p => .error p
      | .ok rest => pass steps rest
    else if c.toNat < 0x20 then .error .controlCharacter
    else pass steps rest

end ParserTables.Json.StringLiteral
