/-!
# Configuration documents

The values of a configuration document, as a tree of nodes. Tables remember how they came to be,
because that decides who may still add to them: a table with a header of its own is complete
after its section, a table that a longer header passed through may still get a header, and a
table that a dotted key made belongs to the section of that key.
-/

namespace ParserTables.Toml

/-- How a table came to be. -/
inductive Origin where
  /-- By a header of its own, or as the document itself. -/
  | header
  /-- By the header of a table inside it. -/
  | passed
  /-- By a dotted key. -/
  | dotted
deriving DecidableEq

/-- A value of a configuration document. -/
inductive Node where
  | text (value : String)
  | boolean (value : Bool)
  | integer (value : Int)
  /-- A floating-point number, as it is written. -/
  | floating (literal : String)
  /-- A date, a time, or both, as it is written. -/
  | moment (literal : String)
  | array (items : List Node)
  /-- A table written as a value. Nothing can be added to it. -/
  | inline (members : List (String × Node))
  | table (origin : Origin) (members : List (String × Node))
  /-- A nonempty array of tables with headers: the earlier ones and the last one. -/
  | tables (earlier : List (List (String × Node))) (last : List (String × Node))

/-- The members of a table. -/
abbrev Members := List (String × Node)

namespace Members

/-- The members with the value of `key` replaced, or added at the end. -/
def put (key : String) (value : Node) : Members → Members
  | [] => [(key, value)]
  | (k, v) :: rest => if k = key then (key, value) :: rest else (k, v) :: put key value rest

/-- Change the table at a path, as far as it may be changed. Tables that are missing on the way
are made; `dotted` says whether the path comes from a dotted key, which must not lead into a
table with a header. `change` is given the origin of the table that it changes. -/
def modify (dotted : Bool) (change : Origin → Members → Option Members) :
    List String → Origin → Members → Option Members
  | [], origin, ms => change origin ms
  | key :: path, _, ms =>
    match ms.lookup key with
    | none => do
      let origin := if dotted then .dotted else .passed
      let child ← modify dotted change path origin []
      return ms ++ [(key, .table origin child)]
    | some (.table origin child) =>
      if dotted ∧ origin = .header then none
      else do
        let child ← modify dotted change path origin child
        return put key (.table origin child) ms
    | some (.tables earlier last) => do
      let last ← modify dotted change path .header last
      return put key (.tables earlier last) ms
    | some _ => none

/-- Add a value at a dotted key. The table that gets it must have been made by the dotted keys
of this section, or be the table of the section itself, and must not have the key yet. -/
def assign (path : List String) (key : String) (value : Node) (origin : Origin)
    (ms : Members) : Option Members :=
  modify true (fun origin ms =>
    if (origin == .dotted) == path.isEmpty || (ms.lookup key).isSome then none
    else some (ms ++ [(key, value)])) path origin ms

/-- Open the section of a table. The table must be new, or have been passed by a header. -/
def openTable (path : List String) (key : String) (ms : Members) : Option Members :=
  modify false (fun _ ms =>
    match ms.lookup key with
    | none => some (ms ++ [(key, .table .header [])])
    | some (.table .passed child) => some (put key (.table .header child) ms)
    | some _ => none) path .header ms

/-- Open the section of a further table in an array of tables. -/
def openTables (path : List String) (key : String) (ms : Members) : Option Members :=
  modify false (fun _ ms =>
    match ms.lookup key with
    | none => some (ms ++ [(key, .tables [] [])])
    | some (.tables earlier last) => some (put key (.tables (earlier ++ [last]) []) ms)
    | some _ => none) path .header ms

end Members

end ParserTables.Toml
