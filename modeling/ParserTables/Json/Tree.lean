import ParserTables.Json.Problem

/-!
# JSON values

A generic JSON value, and the compact text that is written for it. The members of an object
are written in the order in which they stand. `insertMember` keeps an object sorted by its keys,
which is the order that a generic reader gives its objects.
-/

namespace ParserTables.Json

open ParserTables.Text (signedDecimal hex)

/-- A JSON value. -/
inductive Tree where
  | null
  | boolean (value : Bool)
  | number (value : Number)
  | text (value : String)
  | array (items : List Tree)
  | object (members : List (String × Tree))

namespace Tree

/-- A natural number as a JSON value. -/
def natural (n : Nat) : Tree := .number (.integer n)

/-- What a message calls the value. -/
def found : Tree → Found
  | .null => .null
  | .boolean b => .boolean b
  | .number n => .number n
  | .text s => .text s
  | .array _ => .sequence
  | .object _ => .map

mutual

/-- The number of nested arrays and objects. -/
def depth : Tree → Nat
  | .array items => depthOfItems items + 1
  | .object members => depthOfMembers members + 1
  | _ => 0

/-- The greatest depth of a list of values. -/
def depthOfItems : List Tree → Nat
  | [] => 0
  | t :: rest => max t.depth (depthOfItems rest)

/-- The greatest depth of the values of an object. -/
def depthOfMembers : List (String × Tree) → Nat
  | [] => 0
  | (_, t) :: rest => max t.depth (depthOfMembers rest)

end

/-- A member put into an object that is sorted by its keys. A member with the same key is
replaced. -/
def insertMember (key : String) (value : Tree) : List (String × Tree) → List (String × Tree)
  | [] => [(key, value)]
  | (k, v) :: rest =>
    if key = k then (key, value) :: rest
    else if key < k then (key, value) :: (k, v) :: rest
    else (k, v) :: insertMember key value rest

/-- How one character is written inside a string. -/
def writtenChar (c : Char) : List Char :=
  if c = '\x22' then ['\\', '\x22']
  else if c = '\\' then ['\\', '\\']
  else if c = '\x08' then ['\\', 'b']
  else if c = '\x0c' then ['\\', 'f']
  else if c = '\n' then ['\\', 'n']
  else if c = '\r' then ['\\', 'r']
  else if c = '\t' then ['\\', 't']
  else if c.toNat < 0x20 then ['\\', 'u'] ++ hex 4 c.toNat
  else [c]

/-- A string literal. -/
def writtenText (s : String) : List Char :=
  '\x22' :: s.toList.flatMap writtenChar ++ ['\x22']

/-- A number literal. -/
def writtenNumber : Number → List Char
  | .integer n => signedDecimal n
  | .floating x => x.text

mutual

/-- The compact text of a value, in front of `rest`. -/
def writeBefore (rest : List Char) : Tree → List Char
  | .null => ['n', 'u', 'l', 'l'] ++ rest
  | .boolean true => ['t', 'r', 'u', 'e'] ++ rest
  | .boolean false => ['f', 'a', 'l', 's', 'e'] ++ rest
  | .number n => writtenNumber n ++ rest
  | .text s => writtenText s ++ rest
  | .array [] => '[' :: ']' :: rest
  | .array (t :: items) => '[' :: writeBefore (writeItems (']' :: rest) items) t
  | .object [] => '\x7b' :: '\x7d' :: rest
  | .object ((k, t) :: members) =>
    '\x7b' :: writtenText k ++ ':' :: writeBefore (writeMembers ('\x7d' :: rest) members) t

/-- The further items of an array, each after a comma, in front of `rest`. -/
def writeItems (rest : List Char) : List Tree → List Char
  | [] => rest
  | t :: items => ',' :: writeBefore (writeItems rest items) t

/-- The further members of an object, each after a comma, in front of `rest`. -/
def writeMembers (rest : List Char) : List (String × Tree) → List Char
  | [] => rest
  | (k, t) :: members =>
    ',' :: writtenText k ++ ':' :: writeBefore (writeMembers rest members) t

end

/-- The compact text of a value. -/
def write (t : Tree) : String := String.ofList (writeBefore [] t)

end Tree

end ParserTables.Json
