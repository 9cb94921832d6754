import ParserTables.Json.Problem

/-!
# The tokens of a JSON text

A text is cut into tokens before anything is decoded. A token that starts well and goes wrong
is kept as a faulty token: the fault is only a problem if a reader wants a value in its place.
A faulty token is always the last one, because nothing after it can be cut into tokens.

Two kinds of reader look at a string or a number. A reader that wants the value reads it
strictly; one that passes over the value only finds its end, and objects to less. A token
therefore carries what the strict reading gives, and a faulty one both objections.
-/

namespace ParserTables.Json

/-- A token of a JSON text. -/
inductive Token where
  | openBrace
  | closeBrace
  | openBracket
  | closeBracket
  | colon
  | comma
  | null
  | boolean (value : Bool)
  /-- A number whose form is right; its value may be out of range. -/
  | number (value : Except Problem Number)
  /-- A string whose end was found; an escape in it may stand for no character. -/
  | text (value : Except Problem String)
  /-- A word, number or string that goes wrong: what a strict reading and what passing over
  object to. -/
  | faulty (strict passing : Problem)
  /-- A string that goes wrong, with the same two objections. -/
  | faultyText (strict passing : Problem)
  /-- A character that starts no token. -/
  | junk

namespace Token

/-- What a token is found to be by a reader that wants a value and not this one, or the problem
that the token itself has. -/
def found : Token → Except Problem Found
  | .openBrace => .ok .map
  | .openBracket => .ok .sequence
  | .null => .ok .null
  | .boolean b => .ok (.boolean b)
  | .number n => n.map .number
  | .text s => s.map .text
  | .faulty p _ => .error p
  | .faultyText p _ => .error p
  | .closeBrace | .closeBracket | .colon | .comma | .junk => .error .expectedValue

/-- Whether the token starts with a double quote. -/
def isText : Token → Bool
  | .text _ => true
  | .faultyText _ _ => true
  | _ => false

end Token

end ParserTables.Json
