import ParserTables.Decimal.Shortest
import ParserTables.Text.Position
import ParserTables.Text.Quoted

/-!
# What can be wrong with a JSON text

A problem is either one of the text (`eofInValue` … `recursionLimit`), or one of its shape: the
text is fine so far, but the value met is not the one that the reader wants. `Problem.message`
is the one place where a problem is put into words.
-/

namespace ParserTables.Json

open ParserTables.Text (quoted signedDecimal withoutPosition)
open ParserTables.Decimal (Binary64)

/-- A number as it is read. An integer lies between `-2 ^ 63` and `2 ^ 64 - 1`; every other
number, and a negative zero, is a floating-point number. -/
inductive Number where
  | integer (value : Int)
  | floating (value : Binary64)
deriving DecidableEq, Repr

/-- What a reader met in the place of the value it wanted. -/
inductive Found where
  | null
  | boolean (value : Bool)
  | number (value : Number)
  | text (value : String)
  | sequence
  | map
  | unitVariant
deriving DecidableEq, Repr

/-- What a message calls the value that was met. -/
def Found.describe : Found → String
  | .null => "null"
  | .boolean true => "boolean `true`"
  | .boolean false => "boolean `false`"
  | .number (.integer n) => "integer `" ++ String.ofList (signedDecimal n) ++ "`"
  | .number (.floating x) => "floating point `" ++ String.ofList x.text ++ "`"
  | .text s => "string " ++ quoted s
  | .sequence => "sequence"
  | .map => "map"
  | .unitVariant => "unit variant"

/-- Why a JSON text, or a generic JSON value, does not decode. -/
inductive Problem where
  | eofInValue
  | eofInList
  | eofInObject
  | eofInString
  | expectedValue
  | expectedIdent
  | expectedColon
  | expectedCommaOrBracket
  | expectedCommaOrBrace
  | trailingComma
  | trailingCharacters
  | keyNotString
  | invalidNumber
  | numberOutOfRange
  | invalidEscape
  | loneSurrogate
  | unfinishedSurrogate
  | controlCharacter
  | recursionLimit
  | invalidType (found : Found) (expected : String)
  | invalidValue (found : Found) (expected : String)
  | invalidLength (length : Nat) (expected : String)
  | missingField (name : String)
  | duplicateField (name : String)
  | unknownVariant (name : String) (known : List String)
  /-- The value has the right shape, and a rule of the document refuses it. -/
  | refused (reason : String)
deriving DecidableEq, Repr

/-- A text between backquotes. -/
def backquoted (s : String) : String := "`" ++ s ++ "`"

/-- The admissible names of a message, each between backquotes. -/
def oneOf : List String → String
  | [] => "there are no variants"
  | [a] => "expected " ++ backquoted a
  | [a, b] => "expected " ++ backquoted a ++ " or " ++ backquoted b
  | names => "expected one of " ++ String.intercalate ", " (names.map backquoted)

/-- A problem in words, without a position. The reason of a refusal can end with a name of the
document; if this makes it end like a position, that is taken for one. -/
def Problem.message : Problem → String
  | .eofInValue => "EOF while parsing a value"
  | .eofInList => "EOF while parsing a list"
  | .eofInObject => "EOF while parsing an object"
  | .eofInString => "EOF while parsing a string"
  | .expectedValue => "expected value"
  | .expectedIdent => "expected ident"
  | .expectedColon => "expected `:`"
  | .expectedCommaOrBracket => "expected `,` or `]`"
  | .expectedCommaOrBrace => "expected `,` or `\x7d`"
  | .trailingComma => "trailing comma"
  | .trailingCharacters => "trailing characters"
  | .keyNotString => "key must be a string"
  | .invalidNumber => "invalid number"
  | .numberOutOfRange => "number out of range"
  | .invalidEscape => "invalid escape"
  | .loneSurrogate => "lone leading surrogate in hex escape"
  | .unfinishedSurrogate => "unexpected end of hex escape"
  | .controlCharacter => "control character (\\u0000-\\u001F) found while parsing a string"
  | .recursionLimit => "recursion limit exceeded"
  | .invalidType found expected =>
    "invalid type: " ++ found.describe ++ ", expected " ++ expected
  | .invalidValue found expected =>
    "invalid value: " ++ found.describe ++ ", expected " ++ expected
  | .invalidLength length expected =>
    "invalid length " ++ toString length ++ ", expected " ++ expected
  | .missingField name => "missing field " ++ backquoted name
  | .duplicateField name => "duplicate field " ++ backquoted name
  | .unknownVariant name known => "unknown variant " ++ backquoted name ++ ", " ++ oneOf known
  | .refused reason => withoutPosition reason

end ParserTables.Json
