import ParserTables.Grammar.Basic
import ParserTables.Fault

/-!
# Compiling reducers

A reducer is compiled in two steps. First it is checked against the declared methods and the
slots of its production, and the arguments at parameters of the unit type are dropped, since
they have no value (`retain`). What is left is an expression in which every call carries the
signature of its method. Then a target spells the expression in its own way (`Expr.spell`); the
slots that the expression reads are the same for every target.
-/

namespace ParserTables.Reduction

open ParserTables.Grammar

/-- What a reducer computes, without the arguments that have no value. -/
inductive Expr where
  | slot (index : Nat)
  | none
  | some (inner : Expr)
  | call (method : String) (signature : Signature) (args : List Expr)

/-- How a target spells the forms of an expression. -/
structure Spelling (τ : Type) where
  slot : Nat → τ
  none : τ
  some : τ → τ
  call : String → Signature → List τ → τ

namespace Expr

mutual

/-- An expression in the spelling of a target. -/
def spell {τ : Type} (s : Spelling τ) : Expr → τ
  | .slot i => s.slot i
  | .none => s.none
  | .some inner => s.some (spell s inner)
  | .call method signature args => s.call method signature (spellList s args)

/-- Several expressions in the spelling of a target. -/
def spellList {τ : Type} (s : Spelling τ) : List Expr → List τ
  | [] => []
  | e :: rest => spell s e :: spellList s rest

end

mutual

/-- The slots that an expression reads, from left to right. -/
def slots : Expr → List Nat
  | .slot i => [i]
  | .none => []
  | .some inner => inner.slots
  | .call _ _ args => slotsOfList args

/-- The slots that several expressions read. -/
def slotsOfList : List Expr → List Nat
  | [] => []
  | e :: rest => e.slots ++ slotsOfList rest

end

end Expr

mutual

/-- The part of a reducer that has a value, for a production with `slots` slots that messages
call `name`. A node is checked before its arguments, and the arguments from left to right. -/
def retain (g : Declarations) (slots : Nat) (name : String) : Reducer → Except Fault Expr
  | .slot i => if i < slots then .ok (.slot i) else .error (.slotOutOfRange i slots name)
  | .none => .ok .none
  | .some inner => (retain g slots name inner).map .some
  | .call method args =>
    match g.method? method with
    | none => .error (.unknownMethod method name)
    | some signature =>
      if signature.argumentTypes.length ≠ args.length then
        .error (.arityMismatch method name signature.argumentTypes.length args.length)
      else (retainArgs g slots name signature.argumentTypes args).map (.call method signature)

/-- The arguments that have a value. An argument at a parameter of the unit type is not looked
at. -/
def retainArgs (g : Declarations) (slots : Nat) (name : String) :
    List ValueType → List Reducer → Except Fault (List Expr)
  | t :: ts, r :: rs =>
    if t.isUnit then retainArgs g slots name ts rs
    else do
      let e ← retain g slots name r
      let es ← retainArgs g slots name ts rs
      return e :: es
  | _, _ => .ok []

end

/-- The compiled reducer of a production. -/
def compile (g : Declarations) (p : Production) : Except Fault Expr :=
  retain g p.slotCount p.display p.reducer

/-- The slots that a compiled reducer reads, in ascending order. -/
def slotsRead (p : Production) (e : Expr) : List Nat :=
  (List.range p.slotCount).filter fun i => e.slots.contains i

/-- The compiled reducer of a production in the spelling of a target, and the slots that it
reads. -/
def compileIn {τ : Type} (s : Spelling τ) (g : Declarations) (p : Production) :
    Except Fault (τ × List Nat) :=
  (compile g p).map fun e => (e.spell s, slotsRead p e)

end ParserTables.Reduction
