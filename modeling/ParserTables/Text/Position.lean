import ParserTables.Text.Numeral

/-!
# Positions at the end of a message

A message may end with the position of what it is about, as in ` at line 3 column 7`. The position
is no part of what is wrong, so the bare message goes without it. Only one position is taken off.
-/

namespace ParserTables.Text

/-- What stands before `word` and a number. The text is given from its end, and so is the answer.
The number has a digit and fits a word of 64 bits. -/
def beforeNumber? (word back : List Char) : Option (List Char) :=
  let digits := back.takeWhile Char.isDigit
  let rest := back.dropWhile Char.isDigit
  if !digits.isEmpty && decimalValue digits.reverse < wordBound &&
      word.reverse.isPrefixOf rest then
    some (rest.drop word.length)
  else none

/-- What stands before a position. The text is given from its end, and so is the answer. -/
def beforePosition? (back : List Char) : Option (List Char) :=
  (beforeNumber? " column ".toList back).bind (beforeNumber? " at line ".toList)

/-- A message without the position at its end, if there is one. -/
def withoutPosition (message : String) : String :=
  match beforePosition? message.toList.reverse with
  | some back => String.ofList back.reverse
  | none => message

end ParserTables.Text
