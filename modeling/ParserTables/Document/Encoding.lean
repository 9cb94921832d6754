import ParserTables.Automaton
import ParserTables.Json.Tree

/-!
# Writing documents

The JSON value of each part of a document. The members of an object stand in the order of the
fields. The parameters of a nonterminal and the arguments of a type are left out when there are
none; every other field is written.
-/

namespace ParserTables.Document

open ParserTables.Grammar ParserTables.Json

/-- A list of items as a JSON value. -/
def listTree {α : Type} (item : α → Tree) (as : List α) : Tree := .array (as.map item)

/-- An optional string as a JSON value. -/
def nullableTextTree : Option String → Tree
  | none => .null
  | some s => .text s

mutual

/-- A written type as a JSON value. -/
def writtenTypeTree : WrittenType → Tree
  | .mk name args =>
    match args with
    | [] => .object [("name", .text name)]
    | arg :: args =>
      .object [("name", .text name),
        ("args", .array (writtenTypeTree arg :: writtenTypeTrees args))]

/-- Several written types as JSON values. -/
def writtenTypeTrees : List WrittenType → List Tree
  | [] => []
  | t :: rest => writtenTypeTree t :: writtenTypeTrees rest

end

/-- A type as a JSON value. -/
def valueTypeTree (t : ValueType) : Tree := writtenTypeTree t.toWritten

/-- A terminal as a JSON value. -/
def terminalTree : Terminal → Tree
  | .symbol text => .object [("symbol", .text text)]
  | .endOfInput => .text "end"
  | .errorToken => .text "error_token"

/-- A parameter and its value as a JSON value. -/
def parameterTree (arg : String × Bool) : Tree := .array [.text arg.1, .boolean arg.2]

/-- A nonterminal as a JSON value. -/
def nonterminalTree (nt : Nonterminal) : Tree :=
  .object (("name", .text nt.name) ::
    if nt.args.isEmpty then [] else [("args", listTree parameterTree nt.args)])

/-- An element as a JSON value. -/
def elementTree : Element → Tree
  | .terminal t => .object [("terminal", terminalTree t)]
  | .nonterminal nt => .object [("nonterminal", nonterminalTree nt)]
  | .optional inner => .object [("optional", elementTree inner)]
  | .elided text => .object [("elided", .text text)]

mutual

/-- A reducer as a JSON value. -/
def reducerTree : Reducer → Tree
  | .slot i => .object [("slot", .natural i)]
  | .none => .text "none"
  | .some inner => .object [("some", reducerTree inner)]
  | .call method args =>
    .object [("call", .object [("method", .text method), ("args", .array (reducerTrees args))])]

/-- Several reducers as JSON values. -/
def reducerTrees : List Reducer → List Tree
  | [] => []
  | r :: rest => reducerTree r :: reducerTrees rest

end

/-- A production as a JSON value. -/
def productionTree (p : Production) : Tree :=
  .object [
    ("nt", nonterminalTree p.nt),
    ("rhs", listTree elementTree p.rhs),
    ("reducer", reducerTree p.reducer),
    ("goal", .boolean p.goal)]

/-- A signature as a JSON value. -/
def signatureTree (s : Signature) : Tree :=
  .object [
    ("argument_types", listTree valueTypeTree s.argumentTypes),
    ("return_type", valueTypeTree s.returnType),
    ("fallible", .boolean s.fallible)]

/-- A map with string keys as a JSON value. -/
def stringMapTree {ν : Type} (value : ν → Tree) (m : OrderedMap String ν) : Tree :=
  .object (m.entries.map fun e => (e.1, value e.2))

/-- The declarations of a grammar as a JSON value. -/
def declarationsTree (g : Declarations) : Tree :=
  .object [
    ("nonterminal_types", stringMapTree valueTypeTree g.nonterminalTypes),
    ("methods", stringMapTree signatureTree g.methods),
    ("variable_terminals", listTree .text g.variableTerminals)]

/-- A map as a list of pairs. -/
def rowTree {κ ν : Type} (key : κ → Tree) (value : ν → Tree) (m : OrderedMap κ ν) : Tree :=
  listTree (fun e => .array [key e.1, value e.2]) m.entries

/-- A state as a JSON value. -/
def stateTree (s : State) : Tree :=
  .object [
    ("action_row", rowTree terminalTree (fun n => .number (.integer n)) s.actions),
    ("goto_row", rowTree nonterminalTree .natural s.gotos),
    ("error_code", nullableTextTree s.errorCode),
    ("traceback", nullableTextTree s.trace)]

/-- A whole document as a JSON value. -/
def automatonTree (a : Automaton) : Tree :=
  .object [
    ("grammar", declarationsTree a.grammar),
    ("states", listTree stateTree a.states),
    ("prods", listTree productionTree a.productions),
    ("init_state_map", rowTree nonterminalTree .natural a.goals)]

end ParserTables.Document
