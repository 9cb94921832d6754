import ParserTables.Json.Token

/-!
# Passing over a value

A member whose key means nothing to the reader is passed over. Its value may be nested to any
depth: the arrays and objects that are still open stand on a stack, and each step uses up one
token. Strings and numbers are held to less than when they are read.
-/

namespace ParserTables.Json

/-- An array or an object that is still open. -/
inductive Frame where
  | array
  | object
deriving DecidableEq, Repr

/-- What may stand next while a value is passed over. -/
inductive Awaiting where
  /-- A value, and nothing else. -/
  | value
  /-- The first item of an array, or its end. -/
  | itemOrEnd
  /-- A key, and nothing else. -/
  | key
  /-- The first key of an object, or its end. -/
  | keyOrEnd
  /-- The colon after a key. -/
  | colon
  /-- The end of a value inside the innermost open array or object: a comma, or the end of
  that array or object. -/
  | more
deriving DecidableEq, Repr

namespace Awaiting

/-- The problem with a text that ends here. -/
def atEnd (frames : List Frame) : Awaiting → Problem
  | .value => .eofInValue
  | .itemOrEnd => .eofInList
  | .key | .keyOrEnd | .colon => .eofInObject
  | .more =>
    match frames with
    | .array :: _ => .eofInList
    | _ => .eofInObject

/-- A step over a token that has to start a value. -/
def stepValue (frames : List Frame) : Token → Except Problem (List Frame × Awaiting)
  | .openBracket => .ok (.array :: frames, .itemOrEnd)
  | .openBrace => .ok (.object :: frames, .keyOrEnd)
  | .null | .boolean _ | .number _ | .text _ => .ok (frames, .more)
  | .faulty _ p => .error p
  | .faultyText _ p => .error p
  | .closeBrace | .closeBracket | .colon | .comma | .junk => .error .expectedValue

/-- A step over a token that has to be a key. -/
def stepKey (frames : List Frame) : Token → Except Problem (List Frame × Awaiting)
  | .text _ => .ok (frames, .colon)
  | .faultyText _ p => .error p
  | _ => .error .keyNotString

/-- A step over one token: the open arrays and objects after it, and what may follow it. -/
def step (frames : List Frame) : Awaiting → Token → Except Problem (List Frame × Awaiting)
  | .value, t => stepValue frames t
  | .itemOrEnd, .closeBracket => .ok (frames.tail, .more)
  | .itemOrEnd, t => stepValue frames t
  | .key, t => stepKey frames t
  | .keyOrEnd, .closeBrace => .ok (frames.tail, .more)
  | .keyOrEnd, t => stepKey frames t
  | .colon, .colon => .ok (frames, .value)
  | .colon, _ => .error .expectedColon
  | .more, t =>
    match frames, t with
    | .array :: _, .comma => .ok (frames, .value)
    | .array :: outer, .closeBracket => .ok (outer, .more)
    | .array :: _, _ => .error .expectedCommaOrBracket
    | .object :: _, .comma => .ok (frames, .key)
    | .object :: outer, .closeBrace => .ok (outer, .more)
    | _, _ => .error .expectedCommaOrBrace

end Awaiting

/-- What follows the value that begins the tokens, given the open arrays and objects and what
may stand next. -/
def passOver (frames : List Frame) (next : Awaiting) : List Token → Except Problem (List Token)
  | [] => .error (next.atEnd frames)
  | t :: rest =>
    match next.step frames t with
    | .error p => .error p
    | .ok ([], .more) => .ok rest
    | .ok (frames, next) => passOver frames next rest

end ParserTables.Json
