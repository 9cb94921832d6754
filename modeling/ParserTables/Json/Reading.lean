import ParserTables.Json.Token
import ParserTables.Json.Tree

/-!
# Reading tokens from the left

The steps that readers of arrays, objects and single values share. Each takes the tokens that
are left and hands on the tokens after the part it used, or the first problem it met.

Opening an array or an object uses up one level of a budget. A text that is nested too deeply
is refused when the budget is gone, before anything inside is read.
-/

namespace ParserTables.Json

/-- A reader: the value and the tokens after it, or the first problem. -/
abbrev Reader (α : Type) := List Token → Except Problem (α × List Token)

namespace Reader

/-- The number of arrays and objects that a text may nest. -/
def levels : Nat := 127

/-- The value that stands first among the tokens, described for a message. -/
def foundAt : List Token → Except Problem Found
  | [] => .error .eofInValue
  | t :: _ => t.found

/-- The tokens from the next item of an array on, or nothing if the array ends here. -/
def nextItem (first : Bool) : List Token → Except Problem (Option (List Token))
  | [] => .error .eofInList
  | .closeBracket :: _ => .ok none
  | .comma :: rest =>
    if first then .ok (some (.comma :: rest))
    else
      match rest with
      | [] => .error .eofInValue
      | .closeBracket :: _ => .error .trailingComma
      | _ => .ok (some rest)
  | ts => if first then .ok (some ts) else .error .expectedCommaOrBracket

/-- The tokens after the end of an array. -/
def endArray : List Token → Except Problem (List Token)
  | [] => .error .eofInList
  | .closeBracket :: rest => .ok rest
  | .comma :: .closeBracket :: _ => .error .trailingComma
  | _ => .error .trailingCharacters

/-- The tokens from the next key of an object on, or nothing if the object ends here. -/
def nextKey (first : Bool) : List Token → Except Problem (Option (List Token))
  | [] => .error .eofInObject
  | .closeBrace :: _ => .ok none
  | .comma :: rest =>
    if first then .error .keyNotString
    else
      match rest with
      | [] => .error .eofInValue
      | .closeBrace :: _ => .error .trailingComma
      | t :: _ => if t.isText then .ok (some rest) else .error .keyNotString
  | t :: rest =>
    if first then
      if t.isText then .ok (some (t :: rest)) else .error .keyNotString
    else .error .expectedCommaOrBrace

/-- The tokens after the end of an object. -/
def endObject : List Token → Except Problem (List Token)
  | [] => .error .eofInObject
  | .closeBrace :: rest => .ok rest
  | .comma :: _ => .error .trailingComma
  | _ => .error .trailingCharacters

/-- The tokens after the colon that follows a key. -/
def afterColon : List Token → Except Problem (List Token)
  | [] => .error .eofInObject
  | .colon :: rest => .ok rest
  | _ => .error .expectedColon

/-- A string where messages call the wanted value `expected`. -/
def textAs (expected : String) : Reader String
  | .text (.ok s) :: rest => .ok (s, rest)
  | ts => do
    let found ← foundAt ts
    .error (.invalidType found expected)

/-- The items of an array, up to its closing bracket. The array has fewer items than `bound` has
tokens; the tokens from its opening bracket on are always enough. -/
def items {α : Type} (item : Reader α) (bound : List Token) (first : Bool) :
    Reader (List α) := fun ts =>
  match bound with
  | [] => .error .eofInList
  | _ :: bound => do
    match ← nextItem first ts with
    | none => return ([], ts)
    | some ts =>
      let (a, ts) ← item ts
      let (as, ts) ← items item bound false ts
      return (a :: as, ts)

/-- The members of an object, up to its closing brace. `member` reads the value that follows a
key and may refuse the key; it threads a state through the members. The object has fewer
members than `bound` has tokens. -/
def members {σ : Type} (member : σ → String → Reader σ) (bound : List Token) (first : Bool)
    (s : σ) : Reader σ := fun ts =>
  match bound with
  | [] => .error .eofInObject
  | _ :: bound => do
    match ← nextKey first ts with
    | none => return (s, ts)
    | some ts =>
      let (key, ts) ← textAs "a string" ts
      let (s, ts) ← member s key ts
      members member bound false s ts

/-- An array with the given reader for what stands between its brackets. -/
def inArray {α : Type} (body : Nat → Reader α) (budget : Nat) : Reader α := fun ts =>
  match budget with
  | 0 => .error .recursionLimit
  | budget + 1 => do
    let (a, ts) ← body budget ts
    let ts ← endArray ts
    return (a, ts)

/-- An object with the given reader for what stands between its braces. -/
def inObject {α : Type} (body : Nat → Reader α) (budget : Nat) : Reader α := fun ts =>
  match budget with
  | 0 => .error .recursionLimit
  | budget + 1 => do
    let (a, ts) ← body budget ts
    let ts ← endObject ts
    return (a, ts)

/-- A generic value, given the reader for what is nested in it; without that reader nothing may
be nested. An object keeps the last value of a repeated key and is sorted by its keys. -/
def treeOver (inner : Option (Reader Tree)) : Reader Tree
  | .openBracket :: rest =>
    match inner with
    | none => .error .recursionLimit
    | some inner => do
      let (ts, rest) ← items inner (.openBracket :: rest) true rest
      let rest ← endArray rest
      return (.array ts, rest)
  | .openBrace :: rest =>
    match inner with
    | none => .error .recursionLimit
    | some inner => do
      let (ms, rest) ← members (fun ms key ts => do
        let ts ← afterColon ts
        let (t, ts) ← inner ts
        return (Tree.insertMember key t ms, ts)) (.openBrace :: rest) true [] rest
      let rest ← endObject rest
      return (.object ms, rest)
  | .null :: rest => .ok (.null, rest)
  | .boolean b :: rest => .ok (.boolean b, rest)
  | .number (.ok n) :: rest => .ok (.number n, rest)
  | .text (.ok s) :: rest => .ok (.text s, rest)
  | ts => do
    let _ ← foundAt ts
    .error .expectedValue

/-- A generic value within a budget of nested arrays and objects. -/
def tree : Nat → Reader Tree
  | 0 => treeOver none
  | budget + 1 => treeOver (some (tree budget))

/-- The whole text: nothing may follow the value. -/
def whole {α : Type} (reader : Reader α) (ts : List Token) : Except Problem α := do
  let (a, rest) ← reader ts
  if rest.isEmpty then return a else .error .trailingCharacters

end Reader

end ParserTables.Json
