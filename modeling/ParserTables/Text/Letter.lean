import ParserTables.Text.Table.Letters
import ParserTables.Text.Table.Casing
import ParserTables.Text.Table.Display

/-!
# Classes of characters

The classes that names and literals depend on. For ASCII each class is the one that Lean's own
`Char` functions give; beyond ASCII it is read from the tables of the Unicode standard. The
`…_of_ascii` lemmas say so, and proofs about ASCII names need nothing else about the tables.
-/

namespace ParserTables.Text

/-- Whether `c` is one of the 128 ASCII characters. -/
def isAscii (c : Char) : Bool := c.toNat < 128

/-- A letter of any script, or a sign that works as one. -/
def isAlphabetic (c : Char) : Bool :=
  if isAscii c then c.isAlpha else within alphabeticRuns c

/-- An uppercase letter of any script. -/
def isUppercase (c : Char) : Bool :=
  if isAscii c then c.isUpper else within uppercaseRuns c

/-- A lowercase letter of any script. -/
def isLowercase (c : Char) : Bool :=
  if isAscii c then c.isLower else within lowercaseRuns c

/-- A character that takes part in casing: it is upper, lower or title case. -/
def isCased (c : Char) : Bool :=
  if isAscii c then c.isAlpha else within casedRuns c

/-- A character that does not separate a letter from the rest of its word: an apostrophe, a
full stop, a combining mark, and others of this kind. -/
def isCaseIgnorable (c : Char) : Bool :=
  if isAscii c then
    c == '\x27' || c == '.' || c == ':' || c == '^' || c == '\x60'
  else within caseIgnorableRuns c

/-- A control character: one of the two blocks `U+0000`–`U+001F` and `U+007F`–`U+009F`. -/
def isControl (c : Char) : Bool :=
  c.toNat < 0x20 || (0x7F ≤ c.toNat && c.toNat < 0xA0)

/-- A character that only takes up space, in ASCII or beyond it. -/
def isBlank (c : Char) : Bool :=
  let n := c.toNat
  (0x09 ≤ n && n ≤ 0x0D) || n == 0x20 || n == 0x85 || n == 0xA0 || n == 0x1680 ||
    (0x2000 ≤ n && n ≤ 0x200A) || n == 0x2028 || n == 0x2029 || n == 0x202F || n == 0x205F ||
    n == 0x3000

/-- A mark that joins the grapheme before it, such as a combining accent. Signs that extend a
grapheme without being marks, like the halfwidth voicing letters, do not count. -/
def isExtendingMark (c : Char) : Bool :=
  if isAscii c then false else within extendingMarkRuns c

/-- A character that leaves something to see between quotes: the space, and every assigned
character that is no control, format character, separator, private-use code point or letter
without a glyph. -/
def isDisplayable (c : Char) : Bool :=
  if isAscii c then 0x20 ≤ c.toNat && c.toNat < 0x7F
  else !within unprintableRuns c && !within fillerRuns c

theorem isAlphabetic_of_ascii {c : Char} (h : isAscii c = true) :
    isAlphabetic c = c.isAlpha := by simp [isAlphabetic, h]

theorem isUppercase_of_ascii {c : Char} (h : isAscii c = true) :
    isUppercase c = c.isUpper := by simp [isUppercase, h]

theorem isLowercase_of_ascii {c : Char} (h : isAscii c = true) :
    isLowercase c = c.isLower := by simp [isLowercase, h]

/-- Some letter is lowercase and none is uppercase. -/
def allLower (cs : List Char) : Bool :=
  cs.any isLowercase && !cs.any isUppercase

/-- Some letter is uppercase and none is lowercase. -/
def allUpper (cs : List Char) : Bool :=
  cs.any isUppercase && !cs.any isLowercase

end ParserTables.Text
