import ParserTables.Text.Numeral

/-!
# Scanning configuration documents

The parts of a configuration document below values: blanks, line breaks, comments, strings and
keys. A scanner takes characters from the left and hands on what follows, or fails. No scanner
tells why it fails.
-/

namespace ParserTables.Toml

open ParserTables.Text (hexDigit?)

/-- A scanner: the value and the characters after it. -/
abbrev Scanner (α : Type) := List Char → Option (α × List Char)

namespace Scan

/-- A blank inside a line. -/
def isBlank (c : Char) : Bool := c == ' ' || c == '\t'

/-- What follows the blanks. -/
def skipBlanks (cs : List Char) : List Char := cs.dropWhile isBlank

/-- What follows a line break, if there is one. -/
def lineBreak? : List Char → Option (List Char)
  | '\n' :: rest => some rest
  | '\r' :: '\n' :: rest => some rest
  | _ => none

/-- A character that may stand in a comment: anything but a control, except the tab. -/
def isCommentChar (c : Char) : Bool :=
  c == '\t' || (0x20 ≤ c.toNat && c.toNat != 0x7F)

/-- What follows a comment, if there is one. -/
def skipComment : List Char → List Char
  | '#' :: rest => rest.dropWhile isCommentChar
  | cs => cs

/-- What follows the end of a line: blanks, a comment, and a line break or the end. -/
def endOfLine (cs : List Char) : Option (List Char) :=
  match skipComment (skipBlanks cs) with
  | [] => some []
  | rest => lineBreak? rest

/-- What follows any number of blanks, comments and line breaks. Every step uses up a character,
so the number of characters bounds the number of steps. -/
def skipLines : Nat → List Char → List Char
  | 0, cs => cs
  | steps + 1, cs =>
    let rest := skipComment (skipBlanks cs)
    match lineBreak? rest with
    | some rest => skipLines steps rest
    | none => rest

/-- The value of hexadecimal digits. -/
def hexValue (cs : List Char) : Option Nat :=
  cs.foldlM (fun n c => (hexDigit? c).map (n * 16 + ·)) 0

/-- The character with exactly `count` hexadecimal digits as its code point. -/
def codePoint (count : Nat) : Scanner Char := fun cs => do
  let digits := cs.take count
  if digits.length < count then none
  else
    let n ← hexValue digits
    if n.isValidChar then return (Char.ofNat n, cs.drop count) else none

/-- The character of an escape, after the backslash. -/
def escape : Scanner Char
  | 'b' :: rest => some ('\x08', rest)
  | 't' :: rest => some ('\t', rest)
  | 'n' :: rest => some ('\n', rest)
  | 'f' :: rest => some ('\x0c', rest)
  | 'r' :: rest => some ('\r', rest)
  | '\x22' :: rest => some ('\x22', rest)
  | '\\' :: rest => some ('\\', rest)
  | 'u' :: rest => codePoint 4 rest
  | 'U' :: rest => codePoint 8 rest
  | _ => none

/-- A string between double quotes on one line, after the opening quote. -/
def basicText : Nat → Scanner (List Char)
  | 0, _ => none
  | _, [] => none
  | steps + 1, c :: rest =>
    if c = '\x22' then some ([], rest)
    else if c = '\\' then do
      let (d, rest) ← escape rest
      let (ds, rest) ← basicText steps rest
      return (d :: ds, rest)
    else if isCommentChar c then do
      let (ds, rest) ← basicText steps rest
      return (c :: ds, rest)
    else none

/-- A string between apostrophes on one line, after the opening apostrophe. -/
def literalText : Scanner (List Char)
  | [] => none
  | c :: rest =>
    if c = '\x27' then some ([], rest)
    else if isCommentChar c then do
      let (ds, rest) ← literalText rest
      return (c :: ds, rest)
    else none

/-- The quotes at the front, at most five: what they stand for if three of them end the
string. -/
def closingQuotes (quote : Char) (cs : List Char) : Option (List Char × List Char) :=
  let count := min 5 (cs.takeWhile (· == quote)).length
  if 3 ≤ count then some (List.replicate (count - 3) quote, cs.drop count) else none

/-- What follows any number of blanks and line breaks. -/
def skipSpace : List Char → List Char
  | '\n' :: rest => skipSpace rest
  | '\r' :: '\n' :: rest => skipSpace rest
  | c :: rest => if isBlank c then skipSpace rest else c :: rest
  | [] => []

/-- What follows a backslash at the end of a line, from the next character on that is neither a
blank nor part of a line break. -/
def continuation? (cs : List Char) : Option (List Char) :=
  (lineBreak? (skipBlanks cs)).map skipSpace

/-- A string over several lines, after its opening quotes; `escapes` says whether a backslash
has a meaning in it. -/
def longText (quote : Char) (escapes : Bool) : Nat → Scanner (List Char)
  | 0, _ => none
  | _, [] => none
  | steps + 1, c :: rest =>
    match closingQuotes quote (c :: rest) with
    | some closed => some closed
    | none =>
      if escapes ∧ c = '\\' then
        match continuation? rest with
        | some rest => longText quote escapes steps rest
        | none => do
          let (d, rest) ← escape rest
          let (ds, rest) ← longText quote escapes steps rest
          return (d :: ds, rest)
      else
        match lineBreak? (c :: rest) with
        | some rest => do
          let (ds, rest) ← longText quote escapes steps rest
          return ('\n' :: ds, rest)
        | none =>
          if isCommentChar c then do
            let (ds, rest) ← longText quote escapes steps rest
            return (c :: ds, rest)
          else none

/-- A string over several lines without the line break after its opening quotes. -/
def longTextAfterBreak (quote : Char) (escapes : Bool) : Scanner (List Char) := fun cs =>
  let body := (lineBreak? cs).getD cs
  longText quote escapes (body.length + 1) body

/-- A string of any of the four kinds. -/
def text : Scanner String := fun cs => do
  let (chars, rest) ← match cs with
    | '\x22' :: '\x22' :: '\x22' :: rest => longTextAfterBreak '\x22' true rest
    | '\x27' :: '\x27' :: '\x27' :: rest => longTextAfterBreak '\x27' false rest
    | '\x22' :: rest => basicText (rest.length + 1) rest
    | '\x27' :: rest => literalText rest
    | _ => none
  return (String.ofList chars, rest)

/-- A character of a key without quotes. -/
def isBareKeyChar (c : Char) : Bool := c.isAlphanum || c == '-' || c == '_'

/-- A key without dots. -/
def simpleKey : Scanner String := fun cs =>
  match cs with
  | '\x22' :: rest => (basicText (rest.length + 1) rest).map fun p => (String.ofList p.1, p.2)
  | '\x27' :: rest => (literalText rest).map fun p => (String.ofList p.1, p.2)
  | cs =>
    let name := cs.takeWhile isBareKeyChar
    if name.isEmpty then none else some (String.ofList name, cs.dropWhile isBareKeyChar)

/-- The number of parts that a dotted key may not reach, and of arrays and tables that may not
be nested. -/
def nestingLimit : Nat := 80

/-- A key with its blanks: one simple key or several with dots between them. `parts` bounds
their number. -/
def key : Nat → Scanner (List String)
  | 0, _ => none
  | parts + 1, cs => do
    let (name, rest) ← simpleKey (skipBlanks cs)
    match skipBlanks rest with
    | '.' :: rest => do
      let (names, rest) ← key parts rest
      return (name :: names, rest)
    | rest => return ([name], rest)

/-- A key split into its path and its last part. -/
def keyPath : Scanner (List String × String) := fun cs => do
  let (names, rest) ← key (nestingLimit - 1) cs
  let last ← names.getLast?
  return ((names.dropLast, last), rest)

end Scan

end ParserTables.Toml
