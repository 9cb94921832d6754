import ParserTables.Toml.Scalar
import ParserTables.Toml.Scan

/-!
# Reading configuration documents

A document is a sequence of lines: assignments, headers that open a section, comments and empty
lines. `parse?` gives the members of the whole document, or nothing if the text is no document
or defines something twice.
-/

namespace ParserTables.Toml

open Scan

/-- The items of an array, after its opening bracket. `steps` bounds their number. -/
def arrayItems (value : Scanner Node) : Nat → Scanner (List Node)
  | 0, _ => none
  | steps + 1, cs =>
    match skipLines cs.length cs with
    | ']' :: rest => some ([], rest)
    | cs => do
      let (v, rest) ← value cs
      match skipLines rest.length rest with
      | ',' :: rest => do
        let (vs, rest) ← arrayItems value steps rest
        return (v :: vs, rest)
      | ']' :: rest => return ([v], rest)
      | _ => none

/-- The assignments of an inline table, after its opening brace, added to the members read so
far. There is at least one. -/
def inlineMembers (value : Scanner Node) : Nat → Members → Scanner Members
  | 0, _, _ => none
  | steps + 1, ms, cs => do
    let ((path, name), rest) ← keyPath cs
    match rest with
    | '=' :: rest => do
      let (v, rest) ← value (skipBlanks rest)
      let ms ← Members.assign path name v .header ms
      match skipBlanks rest with
      | ',' :: rest => inlineMembers value steps ms rest
      | '\x7d' :: rest => return (ms, rest)
      | _ => none
    | _ => none

/-- A value, given the scanner for what is nested in it; without that scanner nothing may be
nested. -/
def valueOver (inner : Option (Scanner Node)) : Scanner Node := fun cs =>
  match cs with
  | [] => none
  | c :: rest =>
    if c = '\x22' ∨ c = '\x27' then (Scan.text cs).map fun p => (.text p.1, p.2)
    else if c = '[' then do
      let inner ← inner
      let (items, rest) ← arrayItems inner (rest.length + 1) rest
      return (.array items, rest)
    else if c = '\x7b' then do
      let inner ← inner
      match skipBlanks rest with
      | '\x7d' :: rest => return (.inline [], rest)
      | rest => do
        let (ms, rest) ← inlineMembers inner (rest.length + 1) [] rest
        return (.inline ms, rest)
    else Scalar.scan cs

/-- A value within a number of nested arrays and inline tables. -/
def value : Nat → Scanner Node
  | 0 => valueOver none
  | levels + 1 => valueOver (some (value levels))

/-- The members of the document so far, and the path of the section that is open. -/
structure Progress where
  members : Members
  opened : List String

/-- A header: two brackets open a further table of an array, one bracket opens a table. -/
def header (p : Progress) (cs : List Char) : Option (Progress × List Char) :=
  match cs with
  | '[' :: rest => do
    let ((path, name), rest) ← keyPath rest
    match rest with
    | ']' :: ']' :: rest => do
      let ms ← Members.openTables path name p.members
      return (⟨ms, path ++ [name]⟩, rest)
    | _ => none
  | cs => do
    let ((path, name), rest) ← keyPath cs
    match rest with
    | ']' :: rest => do
      let ms ← Members.openTable path name p.members
      return (⟨ms, path ++ [name]⟩, rest)
    | _ => none

/-- An assignment in the section that is open. -/
def assignment (p : Progress) (cs : List Char) : Option (Progress × List Char) := do
  let ((path, name), rest) ← keyPath cs
  match rest with
  | '=' :: rest => do
    let (v, rest) ← value (nestingLimit - 1) (skipBlanks rest)
    let ms ← Members.modify false (Members.assign path name v) p.opened .header p.members
    return ({ p with members := ms }, rest)
  | _ => none

/-- The lines of a document. Every step uses up a character, so the number of characters bounds
the number of steps. -/
def lines : Nat → Progress → List Char → Option Members
  | 0, _, _ => none
  | steps + 1, p, cs =>
    match skipLines cs.length cs with
    | [] => some p.members
    | '[' :: rest => do
      let (p, rest) ← header p rest
      lines steps p (← endOfLine rest)
    | cs => do
      let (p, rest) ← assignment p cs
      lines steps p (← endOfLine rest)

/-- The byte order mark that a document may start with. -/
def byteOrderMark : Char := Char.ofNat 0xFEFF

/-- The members of a document. -/
def parse? (text : String) : Option Members :=
  let cs := text.toList
  let cs := if cs.head? = some byteOrderMark then cs.tail else cs
  lines (cs.length + 1) ⟨[], []⟩ cs

end ParserTables.Toml
