import ParserTables.Automaton
import ParserTables.Naming.Symbol
import ParserTables.Reduction
import ParserTables.Interpreted.Unit

/-!
# The interpreted target

The unit of a document for the runtime that walks the tables. Every production that is no goal
gets a reduction. An optional value is the value itself or nothing, so presence leaves no trace
in the generated expressions.
-/

namespace ParserTables.Interpreted

open ParserTables.Grammar ParserTables.Naming

/-- How expressions are spelled for this target. -/
def spelling : ParserTables.Reduction.Spelling Value where
  slot := .param
  none := .none
  some v := v
  call method _ args := .call (interpretedMethod method) args

/-- The reduction of the production with the given number. -/
def reductionOf (g : Declarations) (index : Nat) (p : Production) : Except Fault Reduction := do
  let compiled ← ParserTables.Reduction.compileIn spelling g p
  return ⟨index, p.display, p.nt.pretty, p.slotCount, compiled.1⟩

/-- The productions that are reduced, with their numbers. -/
def reducible (a : Automaton) : List (Production × Nat) :=
  a.productions.zipIdx.filter fun p => !p.1.goal

/-- The builder method of a declared method. -/
def builderMethod (m : String × Signature) : BuilderMethod :=
  ⟨interpretedMethod m.1, m.1, m.2.valueArity⟩

/-- The goal that a parser starts with when it is not told one: the only goal, if there is
exactly one. -/
def defaultGoal (a : Automaton) : Option String :=
  match a.goals.keys with
  | [goal] => some goal.name
  | _ => none

/-- The unit of a document. -/
def sourceUnit (package : String) (a : Automaton) : Except Fault SourceUnit := do
  let reductions ← (reducible a).mapM fun p => reductionOf a.grammar p.2 p.1
  return {
    package
    importsErrorToken := a.states.any fun s => s.actions.contains .errorToken
    actions := a.states.map fun s =>
      (s.shownTrace, s.actions.entries.map fun e => (Key.ofTerminal e.1, e.2))
    gotos := a.states.map fun s => s.gotos.entries.map fun e => (e.1.pretty, e.2)
    errorCodes := a.states.map State.errorCode
    reductions
    methods := a.grammar.methods.entries.map builderMethod
    goals := a.goals.entries.map fun g => (g.1.name, g.2)
    defaultGoal := defaultGoal a }

end ParserTables.Interpreted
