import ParserTables.Text.Letter
import ParserTables.Text.Numeral

/-!
# String literals of the interpreted target

A literal stands between apostrophes, or between double quotes when the text has an apostrophe
and no double quote. The quote, the backslash and the common controls are escaped by a
backslash, and other characters that would not be visible by their code point, in two, four or
eight hexadecimal digits.
-/

namespace ParserTables.Interpreted

open ParserTables.Text

/-- The blocks of characters that are written by their code point although they are neither
controls nor blanks: format characters and the private-use areas, in ascending order. -/
def hiddenBlocks : List (Nat × Nat) := [
  (0xAD, 0xAD), (0x600, 0x605), (0x61C, 0x61C), (0x6DD, 0x6DD), (0x70F, 0x70F),
  (0x180E, 0x180E), (0x200B, 0x200F), (0x202A, 0x202E), (0x2060, 0x2064), (0x2066, 0x206F),
  (0xE000, 0xF8FF), (0xFEFF, 0xFEFF), (0xFFF9, 0xFFFB), (0xE0001, 0xE0001),
  (0xE0020, 0xE007F), (0xF0000, 0x10FFFF)]

/-- Whether a character is written as it is. Of the blanks this is only the space. -/
def isVisible (c : Char) : Bool :=
  c == ' ' ||
    !(isControl c || isBlank c || hiddenBlocks.any fun b => b.1 ≤ c.toNat && c.toNat ≤ b.2)

/-- The quote that a literal stands between. -/
def quoteOf (text : List Char) : Char :=
  if '\x27' ∈ text ∧ '\x22' ∉ text then '\x22' else '\x27'

/-- A character by its code point, with as few digits as the form allows. -/
def codePointEscape (c : Char) : List Char :=
  let n := c.toNat
  if n < 0x100 then ['\\', 'x'] ++ hex 2 n
  else if n < 0x10000 then ['\\', 'u'] ++ hex 4 n
  else ['\\', 'U'] ++ hex 8 n

/-- How one character is written between two of the given quotes. -/
def literalChar (quote c : Char) : List Char :=
  if c = '\\' then ['\\', '\\']
  else if c = '\n' then ['\\', 'n']
  else if c = '\r' then ['\\', 'r']
  else if c = '\t' then ['\\', 't']
  else if c = quote then ['\\', c]
  else if isVisible c then [c]
  else codePointEscape c

/-- The characters of the literal of a text. -/
def literalChars (text : List Char) : List Char :=
  let quote := quoteOf text
  quote :: text.flatMap (literalChar quote) ++ [quote]

/-- The literal of a text. -/
def literal (text : String) : String := String.ofList (literalChars text.toList)

end ParserTables.Interpreted
