import ParserTables.Grammar.Symbol
import ParserTables.Naming.Identifier
import ParserTables.Text.Numeral

/-!
# Variant names of terminals

A terminal whose text is a word is named by that word. Any other text is spelled out: each
character is replaced by its name, and the names are put into camel form.
-/

namespace ParserTables.Naming

open ParserTables.Grammar ParserTables.Text

/-- The names of the ASCII punctuation characters and the digits. -/
def signNames : List (Nat × String) := [
  (0x20, "SPACE"),
  (0x21, "EXCLAMATION MARK"),
  (0x22, "QUOTATION MARK"),
  (0x23, "NUMBER SIGN"),
  (0x24, "DOLLAR SIGN"),
  (0x25, "PERCENT SIGN"),
  (0x26, "AMPERSAND"),
  (0x27, "APOSTROPHE"),
  (0x28, "LEFT PARENTHESIS"),
  (0x29, "RIGHT PARENTHESIS"),
  (0x2A, "ASTERISK"),
  (0x2B, "PLUS SIGN"),
  (0x2C, "COMMA"),
  (0x2D, "HYPHEN-MINUS"),
  (0x2E, "FULL STOP"),
  (0x2F, "SOLIDUS"),
  (0x30, "DIGIT ZERO"),
  (0x31, "DIGIT ONE"),
  (0x32, "DIGIT TWO"),
  (0x33, "DIGIT THREE"),
  (0x34, "DIGIT FOUR"),
  (0x35, "DIGIT FIVE"),
  (0x36, "DIGIT SIX"),
  (0x37, "DIGIT SEVEN"),
  (0x38, "DIGIT EIGHT"),
  (0x39, "DIGIT NINE"),
  (0x3A, "COLON"),
  (0x3B, "SEMICOLON"),
  (0x3C, "LESS-THAN SIGN"),
  (0x3D, "EQUALS SIGN"),
  (0x3E, "GREATER-THAN SIGN"),
  (0x3F, "QUESTION MARK"),
  (0x40, "COMMERCIAL AT"),
  (0x5B, "LEFT SQUARE BRACKET"),
  (0x5C, "REVERSE SOLIDUS"),
  (0x5D, "RIGHT SQUARE BRACKET"),
  (0x5E, "CIRCUMFLEX ACCENT"),
  (0x5F, "LOW LINE"),
  (0x60, "GRAVE ACCENT"),
  (0x7B, "LEFT CURLY BRACKET"),
  (0x7C, "VERTICAL LINE"),
  (0x7D, "RIGHT CURLY BRACKET"),
  (0x7E, "TILDE")]

/-- The name of a character. Characters beyond printable ASCII are named by their code
point. -/
def charName (c : Char) : List Char :=
  match signNames.lookup c.toNat with
  | some name => name.toList
  | none =>
    if c.isUpper then "LATIN CAPITAL LETTER ".toList ++ [c]
    else if c.isLower then "LATIN SMALL LETTER ".toList ++ [c.toUpper]
    else 'U' :: upperHex 4 c.toNat

/-- A text spelled out in snake form: the names of its characters, with an underscore in place
of every blank and hyphen. -/
def spelledOut (text : List Char) : List Char :=
  lower (replaceChar ' ' ['_'] (replaceChar '-' [' '] (joinWith [' '] (text.map charName))))

/-- Whether a text is a word: it is not empty and consists of letters. -/
def isWord (text : List Char) : Bool := !text.isEmpty && text.all isAlphabetic

/-- A word as a variant name. A word in one case is capitalized, a word of mixed case stays as
it is. -/
def wordName (word : List Char) : List Char :=
  if allLower word || allUpper word then capitalize word else word

/-- The variant name of a lexical symbol. One symbol has a name of its own, because its
spelled-out name would hide what it is. -/
def symbolName (text : List Char) : List Char :=
  if text = ['=', '>'] then "Arrow".toList
  else if isWord text then wordName text
  else camelChars (spelledOut text)

/-- The variant name of a terminal. -/
def terminalName : Terminal → String
  | .symbol text => String.ofList (symbolName text.toList)
  | .endOfInput => "End"
  | .errorToken => "ErrorToken"

end ParserTables.Naming
