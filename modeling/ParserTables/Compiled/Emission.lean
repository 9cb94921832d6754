import ParserTables.Automaton
import ParserTables.Naming.Symbol
import ParserTables.Naming.Terminal
import ParserTables.Reduction
import ParserTables.Settings.Basic
import ParserTables.Compiled.Type
import ParserTables.Compiled.Unit

/-!
# The compiled target

The unit of a document for the runtime that is compiled with its tables. Productions of live
nonterminals get an arm in the dispatcher and a row in the simulator. An arm pops one value for
each slot, from the last slot to the first: a slot that the reducer does not read is dropped, a
slot that it reads is cast to the type of its element. A reducer that is a bare slot moves the
value without a cast, and one that is the only slot leaves the stack alone.
-/

namespace ParserTables.Compiled

open ParserTables.Grammar ParserTables.Naming

/-- How expressions are spelled for this target. A call passes its failure on if its signature
or the settings say that it can fail. -/
def spelling (settings : CompiledSettings) : ParserTables.Reduction.Spelling Value where
  slot := .binding
  none := .none
  some := .some
  call method signature args :=
    let name := compiledMethod method
    .call name args (signature.fallible || settings.listsFallible name)

/-- The statement that pops the value of a slot. -/
def popStatement (settings : CompiledSettings) (g : Declarations) (shape : Production.Shape)
    (read : List Nat) (slot : Element × Nat) : Except Fault Statement :=
  if !read.contains slot.2 then .ok .drop
  else
    match shape with
    | .full => do
      let t ← elementType g slot.1
      let type ← spellType settings.typeSpace true t
      return .cast slot.2 type
    | _ => .ok (.take slot.2)

/-- The statement that pushes the value of a production. -/
def pushStatement (shape : Production.Shape) (value : Value) : Statement :=
  match shape with
  | .full => .push value
  | _ => .restore value

/-- What an arm does to the stack, given the value of the reducer and the slots that it reads. -/
def armBody (settings : CompiledSettings) (g : Declarations) (p : Production) (value : Value)
    (read : List Nat) : Except Fault (List Statement) :=
  match p.shape with
  | .trivial => .ok []
  | shape => do
    let pops ← p.concrete.zipIdx.reverse.mapM (popStatement settings g shape read)
    return pops ++ [pushStatement shape value]

/-- The arm of the production with the given number. -/
def armOf (settings : CompiledSettings) (g : Declarations) (index : Nat) (p : Production) :
    Except Fault Arm := do
  let compiled ← ParserTables.Reduction.compileIn (spelling settings) g p
  let body ← armBody settings g p compiled.1 compiled.2
  return ⟨index, p.display, body, nonterminalCamel p.nt⟩

/-- The productions of live nonterminals, with their numbers. -/
def liveProductions (a : Automaton) : List (Production × Nat) :=
  let live := a.liveNonterminals
  a.productions.zipIdx.filter fun p => live.contains p.1.nt

/-- The entry of a goal. -/
def entryOf (settings : CompiledSettings) (g : Declarations) (goal : Nonterminal × Nat) :
    Except Fault Entry :=
  match g.typeOf? goal.1 with
  | none => .error (.missingType goal.1.pretty)
  | some t => do
    let type ← spellType settings.typeSpace true t
    return ⟨startStateName goal.1, goal.2, "parse_" ++ nonterminalSnake goal.1, type⟩

/-- The unit of a document. -/
def sourceUnit (settings : CompiledSettings) (a : Automaton) : Except Fault SourceUnit := do
  let terminals := a.terminals
  let nonterminals := a.liveNonterminals
  let live := liveProductions a
  let arms ← live.mapM fun p => armOf settings a.grammar p.2 p.1
  let entries ← a.goals.entries.mapM (entryOf settings a.grammar)
  return {
    uses := settings.uses
    handler := settings.handler
    runtimeParse := settings.runtimeParse
    terminals := terminals.map fun t => (terminalName t, t.display)
    actions :=
      ⟨a.states.length * terminals.length,
        a.states.map fun s => (s.shownTrace, terminals.map s.actions.get?)⟩
    errorVariants := (firstAppearances [] a.errorCodes).map camel
    stateErrors :=
      ⟨a.states.length, a.states.map fun s => (s.shownTrace, s.errorCode.map camel)⟩
    nonterminals := nonterminals.map nonterminalCamel
    gotos :=
      ⟨a.states.length * nonterminals.length,
        a.states.map fun s => nonterminals.map fun nt => (s.gotos.get? nt).getD 0⟩
    arms
    simulator := ⟨live.length, live.map fun p => ⟨p.1.slotCount, nonterminalCamel p.1.nt⟩⟩
    stateCount := a.states.length
    actionWidth := terminals.length
    gotoWidth := nonterminals.length
    errorAction := ParserTables.errorAction.toNat
    entries }

end ParserTables.Compiled
