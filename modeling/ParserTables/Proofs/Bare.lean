import ParserTables.Check
import ParserTables.Reduction
import ParserTables.Proofs.Observation

/-!
# Documents without what only comments show

The trace of a state and the elided elements of a production are there to be read. Two documents
that are the same but for them have the same bare form, which has none. Everything that generation
asks a document for has the same answer for the bare form, except how a production is shown, which
a fault may quote.
-/

namespace ParserTables

open ParserTables.Grammar
open ParserTables.Reduction (retain retainArgs compile slotsRead Expr)

/-! ### Documents that are the same but for comments -/

/-- Elements that are the same but for elided ones, which are inserted, removed or rewritten. -/
inductive Grammar.ElidedEdit : List Element → List Element → Prop
  | nil : ElidedEdit [] []
  | keep (el : Element) {els els' : List Element} : ElidedEdit els els' →
      ElidedEdit (el :: els) (el :: els')
  | insert (text : String) {els els' : List Element} : ElidedEdit els els' →
      ElidedEdit els (.elided text :: els')
  | remove (text : String) {els els' : List Element} : ElidedEdit els els' →
      ElidedEdit (.elided text :: els) els'
  | rewrite (text text' : String) {els els' : List Element} : ElidedEdit els els' →
      ElidedEdit (.elided text :: els) (.elided text' :: els')

/-- Productions that are the same but for their elided elements. -/
structure Grammar.Production.SameButElided (p p' : Production) : Prop where
  nt : p.nt = p'.nt
  rhs : ElidedEdit p.rhs p'.rhs
  reducer : p.reducer = p'.reducer
  goal : p.goal = p'.goal

/-- States that are the same but for their traces. -/
structure State.SameButTrace (s s' : State) : Prop where
  actions : s.actions = s'.actions
  gotos : s.gotos = s'.gotos
  errorCode : s.errorCode = s'.errorCode

/-- Documents that are the same but for traces and elided elements. -/
structure Automaton.SameButComments (a a' : Automaton) : Prop where
  grammar : a.grammar = a'.grammar
  states : List.Forall₂ State.SameButTrace a.states a'.states
  productions : List.Forall₂ Production.SameButElided a.productions a'.productions
  goals : a.goals = a'.goals

/-- A production without elided elements. -/
def Grammar.Production.bare (p : Production) : Production := { p with rhs := p.concrete }

/-- A state without a trace. -/
def State.bare (s : State) : State := { s with trace := none }

/-- A document without traces and elided elements. -/
def Automaton.bare (a : Automaton) : Automaton :=
  { a with states := a.states.map State.bare, productions := a.productions.map Production.bare }

/-- A fault without the production that it quotes. -/
def Fault.unquoted : Fault → Fault
  | .unknownMethod method _ => .unknownMethod method ""
  | .arityMismatch method _ expected found => .arityMismatch method "" expected found
  | .slotOutOfRange slot concrete _ => .slotOutOfRange slot concrete ""
  | f => f

theorem Grammar.ElidedEdit.filter_eq {els els' : List Element} (h : ElidedEdit els els') :
    els.filter Element.isConcrete = els'.filter Element.isConcrete := by
  induction h with
  | nil => rfl
  | keep el _ ih => rw [List.filter_cons, List.filter_cons, ih]
  | insert text _ ih => exact ih
  | remove text _ ih => exact ih
  | rewrite text text' _ ih => exact ih

theorem Grammar.Production.SameButElided.bare_eq {p p' : Production} (h : p.SameButElided p') :
    p.bare = p'.bare := by
  rw [bare, bare, concrete, concrete, h.nt, h.rhs.filter_eq, h.reducer, h.goal]

theorem State.SameButTrace.bare_eq {s s' : State} (h : s.SameButTrace s') : s.bare = s'.bare := by
  rw [bare, bare, h.actions, h.gotos, h.errorCode]

theorem map_eq_of_forall₂ {α β : Type} {R : α → α → Prop} {f : α → β}
    (hf : ∀ a a', R a a' → f a = f a') {as as' : List α} (h : List.Forall₂ R as as') :
    as.map f = as'.map f := by
  induction h with
  | nil => rfl
  | cons ha _ ih => rw [List.map_cons, List.map_cons, hf _ _ ha, ih]

/-- Documents that are the same but for comments have the same bare form. -/
theorem Automaton.SameButComments.bare_eq {a a' : Automaton} (h : a.SameButComments a') :
    a.bare = a'.bare := by
  have hstates : a.states.map State.bare = a'.states.map State.bare :=
    map_eq_of_forall₂ (fun _ _ hs => hs.bare_eq) h.states
  have hproductions : a.productions.map Production.bare = a'.productions.map Production.bare :=
    map_eq_of_forall₂ (fun _ _ hp => hp.bare_eq) h.productions
  rw [bare, bare, h.grammar, h.goals, hstates, hproductions]

/-! ### What generation asks for -/

section Production

variable (p : Production)

@[simp] theorem Grammar.Production.nt_bare : p.bare.nt = p.nt := rfl

@[simp] theorem Grammar.Production.concrete_bare : p.bare.concrete = p.concrete := by
  rw [bare, concrete, concrete, List.filter_filter]
  simp only [Bool.and_self]

@[simp] theorem Grammar.Production.slotCount_bare : p.bare.slotCount = p.slotCount := by
  rw [slotCount, slotCount, concrete_bare]

@[simp] theorem Grammar.Production.shape_bare : p.bare.shape = p.shape := by
  rw [shape, shape, slotCount_bare]
  rfl

theorem slotsRead_bare (e : Expr) : slotsRead p.bare e = slotsRead p e := by
  rw [slotsRead, slotsRead, Production.slotCount_bare]

end Production

section Automaton

variable (a : Automaton)

theorem Automaton.liveNonterminals_bare : a.bare.liveNonterminals = a.liveNonterminals := by
  rw [liveNonterminals, liveNonterminals, bare, List.flatMap_map]
  rfl

theorem Automaton.terminals_bare : a.bare.terminals = a.terminals := by
  rw [terminals, terminals, bare, List.flatMap_map]
  rfl

theorem Automaton.errorCodes_bare : a.bare.errorCodes = a.errorCodes := by
  rw [errorCodes, errorCodes, bare, List.filterMap_map]
  rfl

theorem Automaton.check_bare : a.bare.check = a.check := by
  rw [check, check, liveNonterminals_bare, terminals_bare, errorCodes_bare, bare,
    List.length_map]

end Automaton

/-! ### Compiling reducers -/

section Retain

variable (g : Declarations) (slots : Nat) (name name' : String)

mutual

/-- The name of a production only stands in faults. -/
theorem observed_retain : ∀ r : Reducer,
    observed Fault.unquoted id (retain g slots name r) =
      observed Fault.unquoted id (retain g slots name' r)
  | .slot i => by
      rw [retain, retain]
      split
      · rfl
      · rfl
  | .none => by rw [retain, retain]
  | .some inner => by
      rw [retain, retain]
      exact observed_map_congr (observed_retain inner) fun _ _ h => congrArg Expr.some h
  | .call method args => by
      rw [retain, retain]
      cases g.method? method with
      | none => rfl
      | some s =>
          dsimp only
          split
          · rfl
          · exact observed_map_congr (observed_retainArgs s.argumentTypes args) fun _ _ h =>
              congrArg (Expr.call method s) h

theorem observed_retainArgs : ∀ (ts : List ValueType) (rs : List Reducer),
    observed Fault.unquoted id (retainArgs g slots name ts rs) =
      observed Fault.unquoted id (retainArgs g slots name' ts rs)
  | t :: ts, r :: rs => by
      rw [retainArgs, retainArgs]
      split
      · exact observed_retainArgs ts rs
      · refine observed_bind_congr (observed_retain r) fun e e' he => ?_
        refine observed_bind_congr (observed_retainArgs ts rs) fun es es' hes => ?_
        exact congrArg Except.ok (congrArg₂ List.cons he hes)
  | [], rs => by cases rs <;> rfl
  | t :: ts, [] => by rfl

end

end Retain

theorem observed_compile_bare (g : Declarations) (p : Production) :
    observed Fault.unquoted id (compile g p.bare) = observed Fault.unquoted id (compile g p) := by
  rw [compile, compile, Production.slotCount_bare]
  exact observed_retain g p.slotCount _ _ p.reducer

end ParserTables
