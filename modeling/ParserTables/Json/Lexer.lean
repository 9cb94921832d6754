import ParserTables.Json.Token
import ParserTables.Json.Numeral
import ParserTables.Json.StringLiteral

/-!
# Cutting a JSON text into tokens

`tokens` cuts a whole text. It never fails: what goes wrong becomes a faulty token at the end
of the list.
-/

namespace ParserTables.Json

/-- Whether the character only separates tokens. -/
def isSpace (c : Char) : Bool := c == ' ' || c == '\n' || c == '\t' || c == '\r'

/-- What is left after the letters of `word`, or the problem met on the way. -/
def afterWord : List Char → List Char → Except Problem (List Char)
  | [], rest => .ok rest
  | _ :: _, [] => .error .eofInValue
  | w :: word, c :: rest => if w = c then afterWord word rest else .error .expectedIdent

/-- The token of a word that should go on with `letters`, and what follows it. -/
def wordToken (token : Token) (letters : List Char) (cs : List Char) :
    Token × Option (List Char) :=
  match afterWord letters cs with
  | .ok rest => (token, some rest)
  | .error p => (.faulty p p, none)

/-- The token of a number literal, and what follows it. -/
def numberToken (cs : List Char) : Token × Option (List Char) :=
  match Literal.scan cs with
  | .ok (literal, rest) => (.number literal.value, some rest)
  | .error fault => (.faulty fault.problem .invalidNumber, none)

/-- The token of a string literal, after its opening quote, and what follows it. -/
def textToken (steps : Nat) (cs : List Char) : Token × Option (List Char) :=
  match StringLiteral.read steps cs with
  | .ok (chars, rest) => (.text (.ok (String.ofList chars)), some rest)
  | .error p =>
    match StringLiteral.pass steps cs with
    | .ok rest => (.text (.error p), some rest)
    | .error q => (.faultyText p q, none)

/-- The token that starts with `c`, and what follows it; nothing follows a faulty token. -/
def tokenAt (steps : Nat) (c : Char) (rest : List Char) : Token × Option (List Char) :=
  if c = '\x7b' then (.openBrace, some rest)
  else if c = '\x7d' then (.closeBrace, some rest)
  else if c = '[' then (.openBracket, some rest)
  else if c = ']' then (.closeBracket, some rest)
  else if c = ':' then (.colon, some rest)
  else if c = ',' then (.comma, some rest)
  else if c = '\x22' then textToken steps rest
  else if c = 'n' then wordToken .null ['u', 'l', 'l'] rest
  else if c = 't' then wordToken (.boolean true) ['r', 'u', 'e'] rest
  else if c = 'f' then wordToken (.boolean false) ['a', 'l', 's', 'e'] rest
  else if c = '-' ∨ c.isDigit then numberToken (c :: rest)
  else (.junk, none)

/-- The tokens of a text. Each step uses up a character, so the length of the text bounds the
number of steps; the same bound serves for the characters of one string. -/
def tokensWithin (length : Nat) : Nat → List Char → List Token
  | 0, _ => []
  | _, [] => []
  | steps + 1, c :: rest =>
    if isSpace c then tokensWithin length steps rest
    else
      match tokenAt length c rest with
      | (token, some rest) => token :: tokensWithin length steps rest
      | (token, none) => [token]

/-- The tokens of a text. -/
def tokens (cs : List Char) : List Token := tokensWithin cs.length cs.length cs

end ParserTables.Json
