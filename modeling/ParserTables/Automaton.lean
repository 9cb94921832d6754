import ParserTables.Grammar.Basic

/-!
# Automata

The states of an LR automaton with their action and goto rows, together with the productions
that the automaton reduces by and the entry state of every goal. Rows keep the order of the
document, so that it becomes the order of the generated tables.
-/

namespace ParserTables

open ParserTables.Grammar

/-- A state of the automaton. -/
structure State where
  /-- The code of the action on each terminal that has one. -/
  actions : OrderedMap Terminal Int
  /-- The state that is entered after a reduction to each nonterminal that has one. -/
  gotos : OrderedMap Nonterminal Nat
  /-- The tag that is reported with a syntax error in this state. -/
  errorCode : Option String
  /-- How the state was derived, for comments only. -/
  trace : Option String
deriving DecidableEq

/-- The derivation of a state as comments show it. -/
def State.shownTrace (s : State) : String :=
  match s.trace with
  | some t => if t = "" then "<empty>" else t
  | none => "<empty>"

/-- The action code of a terminal without an action. -/
def errorAction : Int := 0x7fffffffffffffff

/-- An automaton with the productions it reduces by. -/
structure Automaton where
  grammar : Declarations
  states : List State
  productions : List Production
  /-- The entry state of every goal. -/
  goals : OrderedMap Nonterminal Nat
deriving DecidableEq

namespace Automaton

/-- The terminals with an action in some state, in the order in which they first appear. They
are the columns of the action table. -/
def terminals (a : Automaton) : List Terminal :=
  firstAppearances [] (a.states.flatMap fun s => s.actions.keys)

/-- The nonterminals that some state goes to another one by, in the order in which they first
appear. They are the columns of the goto table. -/
def liveNonterminals (a : Automaton) : List Nonterminal :=
  firstAppearances [] (a.states.flatMap fun s => s.gotos.keys)

/-- The error codes of the states that have one, in the order of the states. -/
def errorCodes (a : Automaton) : List String := a.states.filterMap State.errorCode

theorem nodup_terminals (a : Automaton) : a.terminals.Nodup := nodup_firstAppearances _ _

theorem nodup_liveNonterminals (a : Automaton) : a.liveNonterminals.Nodup :=
  nodup_firstAppearances _ _

theorem mem_liveNonterminals {a : Automaton} {nt : Nonterminal} :
    nt ∈ a.liveNonterminals ↔ ∃ s ∈ a.states, nt ∈ s.gotos.keys := by
  simp [liveNonterminals, mem_firstAppearances]

end Automaton

end ParserTables
