import ParserTables.Source.Line

/-!
# Source units of the compiled target

A unit holds enumerations of the symbols and error codes, flat tables, the dispatcher that
performs reductions on the value stack, and one entry function for each goal. A static array
carries its declared length apart from its rows. `SourceUnit.lines` writes a unit down; every
decision has been made before.
-/

namespace ParserTables.Compiled

open ParserTables.Source

/-- A value that is pushed on the stack: an expression over the bindings of an arm. -/
inductive Value where
  | binding (slot : Nat)
  | none
  | some (inner : Value)
  /-- A call of the handler; a call that propagates passes its failure on. -/
  | call (method : String) (args : List Value) (propagates : Bool)

/-- The local that holds the value of a slot. -/
def bindingName (slot : Nat) : String := "x" ++ toString slot

namespace Value

mutual

/-- A value as it is written. -/
def written : Value → String
  | .binding i => bindingName i
  | .none => "None"
  | .some inner => "Some(" ++ inner.written ++ ")"
  | .call method args propagates =>
    "handler." ++ method ++ "(" ++ String.intercalate ", " (writtenList args) ++ ")" ++
      (if propagates then "?" else "")

/-- Several values as they are written. -/
def writtenList : List Value → List String
  | [] => []
  | v :: rest => v.written :: writtenList rest

end

end Value

/-- A statement of an arm. -/
inductive Statement where
  /-- Pop a value and drop it. -/
  | drop
  /-- Pop a value and bind it as it is. -/
  | take (slot : Nat)
  /-- Pop a value, cast it to a type and bind it. -/
  | cast (slot : Nat) (type : String)
  /-- Push a bound value back as it is. -/
  | restore (value : Value)
  /-- Convert a value for the stack and push it. -/
  | push (value : Value)

/-- A statement as it is written. -/
def Statement.written : Statement → String
  | .drop => "stack.pop();"
  | .take i => "let " ++ bindingName i ++ " = stack.pop().unwrap();"
  | .cast i type =>
    "let " ++ bindingName i ++ ": " ++ type ++ " = stack.pop().unwrap().to_ast()?;"
  | .restore v => "stack.push(" ++ v.written ++ ");"
  | .push v => "stack.push(TryIntoStack::try_into_stack(" ++ v.written ++ ")?);"

/-- An arm of the dispatcher: the number of its production, what it does to the stack, and the
variant of the nonterminal that it reduces to. -/
structure Arm where
  index : Nat
  comment : String
  body : List Statement
  result : String

/-- A row of the simulator: the number of values that a reduction pops, and the variant of its
nonterminal. -/
structure SimulatorRow where
  pops : Nat
  result : String
deriving DecidableEq

/-- The entry of a goal: the constant of its entry state, its function, and the type of its
value. -/
structure Entry where
  constant : String
  state : Nat
  function : String
  resultType : String
deriving DecidableEq

/-- Rows of a static array with the length that is declared for all of them together. -/
structure StaticArray (α : Type) where
  length : Nat
  rows : List α

/-- A unit of source. -/
structure SourceUnit where
  uses : List String
  handler : String
  runtimeParse : String
  /-- The variant of every terminal, and how the terminal is shown. -/
  terminals : List (String × String)
  /-- The trace of every state and its action codes; an absent code is an error. -/
  actions : StaticArray (String × List (Option Int))
  errorVariants : List String
  /-- The trace of every state and the variant of its error code. -/
  stateErrors : StaticArray (String × Option String)
  nonterminals : List String
  gotos : StaticArray (List Nat)
  arms : List Arm
  simulator : StaticArray SimulatorRow
  stateCount : Nat
  actionWidth : Nat
  gotoWidth : Nat
  errorAction : Nat
  entries : List Entry

/-- The marker of a comment. -/
def commentMarker : String := "//"

/-- The comment above what belongs to a state. -/
def traceComment (trace : String) (index : Nat) : Line :=
  .comment 1 commentMarker (toString index ++ ". " ++ trace)

/-- The head of a static array. -/
def arrayHead (name type : String) (length : Nat) : Line :=
  .code 0 ("static " ++ name ++ ": [" ++ type ++ "; " ++ toString length ++ "] = [")

/-- Cells of a table on one line. -/
def cells (texts : List String) : Line :=
  .code 1 (String.intercalate " " (texts.map fun t => t ++ ","))

namespace Arm

/-- The lines of an arm. -/
def lines (a : Arm) : List Line :=
  [.code 2 (toString a.index ++ " => \x7b"), .comment 3 commentMarker a.comment] ++
    a.body.map (fun s => .code 3 s.written) ++
    [.code 3 ("Ok(NonterminalId::" ++ a.result ++ ")"), .code 2 "\x7d"]

end Arm

namespace Entry

/-- The constant of an entry state. -/
def constantLines (e : Entry) : List Line :=
  [.code 0 ("pub static " ++ e.constant ++ ": usize = " ++ toString e.state ++ ";"), blank]

/-- The entry function of a goal. -/
def functionLines (handler runtimeParse : String) (e : Entry) : List Line :=
  [.code 0 ("pub fn " ++ e.function ++ "<'alloc, I>("),
    .code 1 ("handler: &" ++ handler ++ "<'alloc>,"),
    .code 1 "tokens: I,",
    .code 0 (") -> Result<'alloc, " ++ e.resultType ++ ">"),
    .code 0 "where",
    .code 1 "I: IntoIterator<Item = Token<'alloc>>,",
    .code 0 "\x7b",
    .code 1 ("let value = " ++ runtimeParse ++ "(handler, &TABLES, " ++ e.constant ++
      ", tokens)?;"),
    .code 1 "value.to_ast()",
    .code 0 "\x7d",
    blank]

end Entry

/-- The definition of tokens. The scanned text borrows from the source buffer, so a token that
outlives it carries none. -/
def tokenLines : List Line := [
  .code 0 "#[derive(Clone, Debug, PartialEq)]",
  .code 0 "pub struct Token<'a> \x7b",
  .code 1 "pub terminal_id: TerminalId,",
  .code 1 "pub saw_newline: bool,",
  .code 1 "pub value: Option<&'a str>,",
  .code 0 "\x7d",
  blank,
  .code 0 "impl Token<'_> \x7b",
  .code 1 "pub fn basic_token(terminal_id: TerminalId) -> Self \x7b",
  .code 2 "Self \x7b",
  .code 3 "terminal_id,",
  .code 3 "saw_newline: false,",
  .code 3 "value: None,",
  .code 2 "\x7d",
  .code 1 "\x7d",
  blank,
  .code 1 "pub fn into_static(self) -> Token<'static> \x7b",
  .code 2 "Token \x7b",
  .code 3 "terminal_id: self.terminal_id,",
  .code 3 "saw_newline: self.saw_newline,",
  .code 3 "value: None,",
  .code 2 "\x7d",
  .code 1 "\x7d",
  .code 0 "\x7d",
  blank]

/-- The definition of the tables as a whole. -/
def tablesTypeLines : List Line := [
  .code 0 "#[derive(Clone, Copy)]",
  .code 0 "pub struct ParserTables<'a> \x7b",
  .code 1 "pub state_count: usize,",
  .code 1 "pub action_table: &'a [i64],",
  .code 1 "pub action_width: usize,",
  .code 1 "pub error_codes: &'a [Option<ErrorCode>],",
  .code 1 "pub reduce_simulator: &'a [(usize, NonterminalId)],",
  .code 1 "pub goto_table: &'a [u16],",
  .code 1 "pub goto_width: usize,",
  .code 0 "\x7d",
  blank,
  .code 0 "impl<'a> ParserTables<'a> \x7b",
  .code 1 "pub fn check(&self) \x7b",
  .code 2 "assert_eq!(self.action_table.len(), self.state_count * self.action_width);",
  .code 2 "assert_eq!(self.goto_table.len(), self.state_count * self.goto_width);",
  .code 1 "\x7d",
  .code 0 "\x7d",
  blank]

namespace SourceUnit

variable (u : SourceUnit)

/-- The imports and the code of an absent action. -/
def headerLines : List Line :=
  [.comment 0 commentMarker "WARNING: This file is autogenerated.", blank] ++
    u.uses.map (fun path => .code 0 ("use " ++ path ++ ";")) ++
    [blank,
      .code 0 ("const ERROR: i64 = 0x" ++ String.ofList (Nat.toDigits 16 u.errorAction) ++ ";"),
      blank]

/-- The enumeration of the terminals. The comment after a variant is on the line of the
variant. -/
def terminalsLines : List Line :=
  [.code 0 "#[derive(Copy, Clone, Debug, PartialEq)]", .code 0 "pub enum TerminalId \x7b"] ++
    (u.terminals.zipIdx.map fun t =>
      .code 1 (t.1.1 ++ " = " ++ toString t.2 ++ ", " ++ commentMarker ++ " " ++
        flatten t.1.2)) ++
    [.code 0 "\x7d", blank]

/-- The lines of an action row. -/
def actionLines (index : Nat) (row : String × List (Option Int)) : List Line :=
  [traceComment row.1 index,
    cells (row.2.map fun
      | some code => toString code
      | none => "ERROR")]

/-- Blocks of lines with an empty line between two of them. -/
def separated : List (List Line) → List Line
  | [] => []
  | [block] => block
  | block :: next :: rest => block ++ [blank] ++ separated (next :: rest)

/-- The action table. -/
def actionsLines : List Line :=
  [.code 0 "#[rustfmt::skip]", arrayHead "ACTIONS" "i64" u.actions.length] ++
    separated (u.actions.rows.zipIdx.map fun s => actionLines s.2 s.1) ++
    [.code 0 "];", blank]

/-- The enumeration of the error codes, and the error code of every state. -/
def errorCodesLines : List Line :=
  [.code 0 "#[derive(Clone, Debug, PartialEq)]", .code 0 "pub enum ErrorCode \x7b"] ++
    u.errorVariants.map (fun v => .code 1 (v ++ ",")) ++
    [.code 0 "\x7d", blank,
      arrayHead "STATE_TO_ERROR_CODE" "Option<ErrorCode>" u.stateErrors.length] ++
    (u.stateErrors.rows.zipIdx.flatMap fun s =>
      [traceComment s.1.1 s.2,
        .code 1 (match s.1.2 with
          | some v => "Some(ErrorCode::" ++ v ++ "),"
          | none => "None,")]) ++
    [.code 0 "];", blank]

/-- The enumeration of the nonterminals. -/
def nonterminalsLines : List Line :=
  [.code 0 "#[derive(Clone, Copy, Debug, PartialEq)]", .code 0 "pub enum NonterminalId \x7b"] ++
    (u.nonterminals.zipIdx.map fun v => .code 1 (v.1 ++ " = " ++ toString v.2 ++ ",")) ++
    [.code 0 "\x7d", blank]

/-- The goto table. -/
def gotosLines : List Line :=
  [.code 0 "#[rustfmt::skip]", arrayHead "GOTO" "u16" u.gotos.length] ++
    u.gotos.rows.map (fun row => cells (row.map fun n => toString n)) ++
    [.code 0 "];", blank]

/-- The dispatcher. -/
def dispatcherLines : List Line :=
  [.code 0 "pub fn reduce<'alloc>(",
    .code 1 ("handler: &" ++ u.handler ++ "<'alloc>,"),
    .code 1 "prod: usize,",
    .code 1 "stack: &mut std::vec::Vec<StackValue<'alloc>>,",
    .code 0 ") -> Result<'alloc, NonterminalId> \x7b",
    .code 1 "match prod \x7b"] ++
    u.arms.flatMap Arm.lines ++
    [.code 2 "_ => panic!(\"no such production: \x7b\x7d\", prod),",
      .code 1 "\x7d", .code 0 "\x7d", blank]

/-- The simulator of reductions. -/
def simulatorLines : List Line :=
  [arrayHead "REDUCE_SIMULATOR" "(usize, NonterminalId)" u.simulator.length] ++
    u.simulator.rows.map (fun r =>
      .code 1 ("(" ++ toString r.pops ++ ", NonterminalId::" ++ r.result ++ "),")) ++
    [.code 0 "];", blank]

/-- The tables as a whole. -/
def tablesLines : List Line :=
  tablesTypeLines ++
    [.code 0 "pub static TABLES: ParserTables<'static> = ParserTables \x7b",
      .code 1 ("state_count: " ++ toString u.stateCount ++ ","),
      .code 1 "action_table: &ACTIONS,",
      .code 1 ("action_width: " ++ toString u.actionWidth ++ ","),
      .code 1 "error_codes: &STATE_TO_ERROR_CODE,",
      .code 1 "reduce_simulator: &REDUCE_SIMULATOR,",
      .code 1 "goto_table: &GOTO,",
      .code 1 ("goto_width: " ++ toString u.gotoWidth ++ ","),
      .code 0 "\x7d;",
      blank]

/-- The entries of the goals: first all constants, then all functions. -/
def entriesLines : List Line :=
  u.entries.flatMap Entry.constantLines ++
    u.entries.flatMap (Entry.functionLines u.handler u.runtimeParse)

/-- All lines of a unit. -/
def lines : List Line :=
  u.headerLines ++ u.terminalsLines ++ tokenLines ++ u.actionsLines ++ u.errorCodesLines ++
    u.nonterminalsLines ++ u.gotosLines ++ u.dispatcherLines ++ u.simulatorLines ++
    u.tablesLines ++ u.entriesLines

end SourceUnit

end ParserTables.Compiled
