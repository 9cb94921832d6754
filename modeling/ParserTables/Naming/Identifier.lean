import ParserTables.Text.Case
import ParserTables.Text.Split

/-!
# Identifiers from grammar names

The two spellings of a name. The snake form separates the words of the name by underscores and
is all in lower case. The camel form joins capitalized words; a name of mixed case without an
underscore is taken to be in camel form already.

Words are found in two passes over ASCII letters. The first separates a capitalized word from
the character before it, the second separates a capital letter from a small letter or a digit
before it. A boundary that the first pass steps over, because it lies inside a word that was
just separated, is found by the second.
-/

namespace ParserTables.Naming

open ParserTables.Text

/-- An underscore in front of each capital letter that is followed by a small one and comes
after any character but a line break. The flag says whether the scan is inside the small letters
of a word that has just been separated. -/
def wordBreaks : Bool → List Char → List Char
  | inWord, a :: b :: c :: rest =>
    if inWord && a.isLower then a :: wordBreaks true (b :: c :: rest)
    else if a ≠ '\n' ∧ b.isUpper ∧ c.isLower then
      a :: '_' :: b :: wordBreaks true (c :: rest)
    else a :: wordBreaks false (b :: c :: rest)
  | _, short => short

/-- An underscore between each small letter or digit and a capital letter after it. The two
characters of a match are not looked at again. -/
def caseBreaks : List Char → List Char
  | a :: b :: rest =>
    if (a.isLower ∨ a.isDigit) ∧ b.isUpper then a :: '_' :: b :: caseBreaks rest
    else a :: caseBreaks (b :: rest)
  | short => short

/-- The snake form of a name. -/
def snakeChars (name : List Char) : List Char := lower (caseBreaks (wordBreaks false name))

/-- The camel form of a name. -/
def camelChars (name : List Char) : List Char :=
  if '_' ∈ name then (pieces '_' name).flatMap capitalize
  else if allLower name then capitalize name
  else name

/-- The snake form of a name. -/
def snake (name : String) : String := String.ofList (snakeChars name.toList)

/-- The camel form of a name. -/
def camel (name : String) : String := String.ofList (camelChars name.toList)

theorem camelChars_of_mem {name : List Char} (h : '_' ∈ name) :
    camelChars name = (pieces '_' name).flatMap capitalize := by
  simp [camelChars, h]

theorem toList_snake (name : String) : (snake name).toList = snakeChars name.toList := by
  simp [snake]

theorem toList_camel (name : String) : (camel name).toList = camelChars name.toList := by
  simp [camel]

end ParserTables.Naming
