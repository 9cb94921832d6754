import ParserTables.Grammar.Symbol
import ParserTables.Interpreted.Literal
import ParserTables.Source.Line

/-!
# Source units of the interpreted target

A unit holds the tables of an automaton as literals, one function per reduction, a builder that
makes tagged tuples, and the parser class. `SourceUnit.lines` writes a unit down; every decision
has been made before.
-/

namespace ParserTables.Interpreted

open ParserTables.Grammar ParserTables.Source

/-- A key of an action row: the text of a symbol, or one of the two special terminals. -/
inductive Key where
  | symbol (text : String)
  | endOfInput
  | errorToken
deriving DecidableEq

/-- The key of a terminal. -/
def Key.ofTerminal : Terminal → Key
  | .symbol text => .symbol text
  | .endOfInput => .endOfInput
  | .errorToken => .errorToken

/-- A key as it is written. -/
def Key.written : Key → String
  | .symbol text => literal text
  | .endOfInput => "None"
  | .errorToken => "ErrorToken"

/-- What a reduction returns: an expression over the parameters of its function. -/
inductive Value where
  | param (index : Nat)
  | none
  | call (method : String) (args : List Value)

/-- The parameter for a slot. -/
def paramName (index : Nat) : String := "x" ++ toString index

/-- The parameters for the first `count` slots. -/
def paramNames (count : Nat) : List String := (List.range count).map paramName

namespace Value

mutual

/-- A value as it is written. -/
def written : Value → String
  | .param i => paramName i
  | .none => "None"
  | .call method args =>
    "builder." ++ method ++ "(" ++ String.intercalate ", " (writtenList args) ++ ")"

/-- Several values as they are written. -/
def writtenList : List Value → List String
  | [] => []
  | v :: rest => v.written :: writtenList rest

end

end Value

/-- The entry of a production in the list of reductions. -/
structure Reduction where
  /-- The number of the production, for the comment. -/
  index : Nat
  comment : String
  nonterminal : String
  arity : Nat
  value : Value

/-- A method of the default builder. -/
structure BuilderMethod where
  name : String
  tag : String
  arity : Nat
deriving DecidableEq

/-- A unit of source. -/
structure SourceUnit where
  package : String
  importsErrorToken : Bool
  /-- The trace and the action row of every state. -/
  actions : List (String × List (Key × Int))
  /-- The goto row of every state. -/
  gotos : List (List (String × Nat))
  errorCodes : List (Option String)
  reductions : List Reduction
  methods : List BuilderMethod
  goals : List (String × Nat)
  defaultGoal : Option String

/-- A dictionary as it is written. -/
def dictionary (entries : List (String × String)) : String :=
  "\x7b" ++ String.intercalate ", " (entries.map fun e => e.1 ++ ": " ++ e.2) ++ "\x7d"

/-- An optional text as it is written. -/
def optionalLiteral : Option String → String
  | some text => literal text
  | none => "None"

/-- The items of a list in groups of `size`; the last group may be smaller. -/
def groups {α : Type} (size : Nat) (group : List α) : List α → List (List α)
  | [] => if group.isEmpty then [] else [group.reverse]
  | a :: rest =>
    if group.length + 1 < size then groups size (a :: group) rest
    else (a :: group).reverse :: groups size [] rest

/-- The number of error codes on one line. -/
def errorCodesPerLine : Nat := 16

/-- The marker of a comment. -/
def commentMarker : String := "#"

namespace Reduction

/-- The comment and the entry of a production: its nonterminal, the number of its slots, and the
function that computes its value. -/
def lines (r : Reduction) : List Line :=
  [.comment 1 commentMarker (toString r.index ++ ". " ++ r.comment),
    .code 1 ("(" ++ literal r.nonterminal ++ ", " ++ toString r.arity ++ ", lambda " ++
      String.intercalate ", " ("builder" :: paramNames r.arity) ++ ": " ++ r.value.written ++
      "),")]

end Reduction

namespace BuilderMethod

/-- The definition of a builder method: it returns its tag and its arguments. -/
def line (m : BuilderMethod) : Line :=
  let params := paramNames m.arity
  let tuple :=
    if params.isEmpty then "(" ++ literal m.tag ++ ",)"
    else "(" ++ literal m.tag ++ ", " ++ String.intercalate ", " params ++ ")"
  .code 1 ("def " ++ m.name ++ "(" ++ String.intercalate ", " ("self" :: params) ++
    "): return " ++ tuple)

end BuilderMethod

namespace SourceUnit

variable (u : SourceUnit)

/-- The imports. -/
def headerLines : List Line :=
  [.code 0 ("from " ++ u.package ++ " import runtime")] ++
    (if u.importsErrorToken then
      [.code 0 ("from " ++ u.package ++ ".runtime import ErrorToken")] else []) ++
    [blank]

/-- The comment and the action row of one state. -/
def actionLines (index : Nat) (state : String × List (Key × Int)) : List Line :=
  [.comment 1 commentMarker (toString index ++ ". " ++ state.1),
    .code 1 (dictionary (state.2.map fun e => (e.1.written, toString e.2)) ++ ","),
    blank]

/-- The action rows. -/
def actionsLines : List Line :=
  [.code 0 "actions = ["] ++
    (u.actions.zipIdx.flatMap fun s => actionLines s.2 s.1) ++
    [.code 0 "]", blank]

/-- The goto row of one state. -/
def gotoLine (row : List (String × Nat)) : Line :=
  .code 1 (dictionary (row.map fun e => (literal e.1, toString e.2)) ++ ",")

/-- The goto rows. -/
def gotosLines : List Line :=
  [.code 0 "ctns = ["] ++ u.gotos.map gotoLine ++ [.code 0 "]", blank]

/-- The error codes, several on a line. -/
def errorCodesLines : List Line :=
  [.code 0 "error_codes = ["] ++
    ((groups errorCodesPerLine [] u.errorCodes).map fun codes =>
      .code 1 (String.intercalate " " (codes.map fun c => optionalLiteral c ++ ","))) ++
    [.code 0 "]", blank]

/-- The reductions. -/
def reductionsLines : List Line :=
  [.code 0 "reductions = ["] ++ u.reductions.flatMap Reduction.lines ++
    [.code 0 "]", blank, blank]

/-- The default builder. -/
def builderLines : List Line :=
  [.code 0 "class DefaultBuilder:"] ++
    (if u.methods.isEmpty then [.code 1 "pass"] else u.methods.map BuilderMethod.line) ++
    [blank, blank]

/-- The entry states of the goals. -/
def goalsLines : List Line :=
  [.code 0 "goal_nt_to_init_state = \x7b"] ++
    (u.goals.map fun g => .code 1 (literal g.1 ++ ": " ++ toString g.2 ++ ",")) ++
    [.code 0 "\x7d", blank]

/-- The parser class. -/
def parserLines : List Line :=
  let goal :=
    match u.defaultGoal with
    | some name => "=" ++ literal name
    | none => ""
  [.code 0 "class Parser(runtime.Parser):",
    .code 1 ("def __init__(self, goal" ++ goal ++ ", builder=None):"),
    .code 2 "if builder is None:",
    .code 3 "builder = DefaultBuilder()",
    .code 2 "super().__init__(actions, ctns, reductions, error_codes,",
    .code 2 "                 goal_nt_to_init_state[goal], builder)"]

/-- All lines of a unit. -/
def lines : List Line :=
  u.headerLines ++ u.actionsLines ++ u.gotosLines ++ u.errorCodesLines ++ u.reductionsLines ++
    u.builderLines ++ u.goalsLines ++ u.parserLines

end SourceUnit

end ParserTables.Interpreted
