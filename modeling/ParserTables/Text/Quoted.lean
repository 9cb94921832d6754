import ParserTables.Text.Letter
import ParserTables.Text.Numeral

/-!
# Quoted texts in diagnostics

Messages and comments show a text between double quotes. A quote and a backslash are escaped by
a backslash, the common controls by their letter, and every other character that would not be
seen, or would be seen as a part of the character before it, by its code point in braces.
-/

namespace ParserTables.Text

/-- How one character is shown between the quotes. -/
def shownChar (c : Char) : List Char :=
  if c = '\x00' then ['\\', '0']
  else if c = '\t' then ['\\', 't']
  else if c = '\r' then ['\\', 'r']
  else if c = '\n' then ['\\', 'n']
  else if c = '\\' ∨ c = '\x22' then ['\\', c]
  else if isExtendingMark c ∨ ¬ isDisplayable c then
    ['\\', 'u', '\x7b'] ++ hex 1 c.toNat ++ ['\x7d']
  else [c]

/-- A text between double quotes, as messages show it. -/
def quoted (s : String) : String :=
  String.ofList ('\x22' :: s.toList.flatMap shownChar ++ ['\x22'])

end ParserTables.Text
