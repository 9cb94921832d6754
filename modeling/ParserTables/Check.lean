import ParserTables.Automaton
import ParserTables.Naming.Collision

/-!
# Documents that can be generated from

The checks that come before any generation and do not depend on the target. They are made in a
fixed order, and the first one that fails is reported.
-/

namespace ParserTables.Automaton

open ParserTables.Grammar

/-- A goal takes no arguments and starts in an existing state. -/
def checkGoal (count : Nat) (goal : Nonterminal × Nat) : Except Fault Unit :=
  if goal.1.args ≠ [] then .error (.goalWithArguments goal.1.pretty)
  else if count ≤ goal.2 then .error (.goalStateOutOfRange goal.1.pretty goal.2 count)
  else .ok ()

/-- What every target demands of a document: usable goals, and distinct names for the live
nonterminals, the terminals, the error codes and the goals, in this order. -/
def check (a : Automaton) : Except Fault Unit := do
  a.goals.entries.forM (checkGoal a.states.length)
  Naming.checkNonterminals a.liveNonterminals
  Naming.checkTerminals a.terminals
  Naming.checkErrorCodes a.errorCodes
  Naming.checkGoals a.goals.keys

end ParserTables.Automaton
