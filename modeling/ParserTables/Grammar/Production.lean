import ParserTables.Grammar.Symbol
import ParserTables.Grammar.Reducer

/-!
# Productions

A production derives elements from a nonterminal and computes its value by a reducer. A goal
production accepts the input and is never reduced.
-/

namespace ParserTables.Grammar

/-- A production of the grammar. -/
structure Production where
  nt : Nonterminal
  rhs : List Element
  reducer : Reducer
  goal : Bool
deriving DecidableEq

namespace Production

/-- The elements that occupy slots of the value stack, in order. -/
def concrete (p : Production) : List Element := p.rhs.filter Element.isConcrete

/-- The number of slots. -/
def slotCount (p : Production) : Nat := p.concrete.length

/-- How a production is shown in comments and messages. -/
def display (p : Production) : String :=
  p.nt.pretty ++ " ::=" ++ (if p.rhs.isEmpty then " [empty]" else "") ++
    String.join (p.rhs.map fun e => " " ++ e.display) ++ " => " ++ p.reducer.display

/-- How much work a reduction leaves for the value stack. -/
inductive Shape where
  /-- The only slot is the value: the stack stays as it is. -/
  | trivial
  /-- The value is one of the slots: it goes back as it was. -/
  | discarding
  /-- The value is computed from the slots. -/
  | full
deriving DecidableEq

/-- The shape of a production. -/
def shape (p : Production) : Shape :=
  match p.reducer with
  | .slot i => if i = 0 ∧ p.slotCount = 1 then .trivial else .discarding
  | _ => .full

theorem shape_eq_trivial_iff (p : Production) :
    p.shape = .trivial ↔ p.reducer = .slot 0 ∧ p.slotCount = 1 := by
  cases h : p.reducer with
  | slot i =>
    simp only [shape, h, Reducer.slot.injEq]
    split <;> simp_all
  | none => simp [shape, h]
  | some r => simp [shape, h]
  | call m args => simp [shape, h]

end Production

end ParserTables.Grammar
