import ParserTables.Interpreted.Emission
import ParserTables.Proofs.Reduction.Value

/-!
# Applying a reduction

What the function of a reduction returns for the values of its parameters. A method of the
builder is an uninterpreted function. Presence is not spelled in this target, so the function
returns the value of the reducer with every presence erased (`returns_of_reductionOf`).
-/

namespace ParserTables.Interpreted

open ParserTables.Grammar ParserTables.Naming
open ParserTables.Reduction (Expr Meaning compile bind_compileIn value? value?_of_retain map_value?
  lt_of_mem_slots_of_retain)

variable {ν : Type}

namespace Value

mutual

/-- What an expression evaluates to over the values of the parameters. -/
def eval? (m : Meaning ν) (params : List ν) : Value → Option ν
  | .param i => params[i]?
  | .none => Option.some m.absent
  | .call method args => (evalList? m params args).map (m.result method)

/-- What several expressions evaluate to. -/
def evalList? (m : Meaning ν) (params : List ν) : List Value → Option (List ν)
  | [] => Option.some []
  | v :: rest => (eval? m params v).bind fun x => (evalList? m params rest).map fun xs => x :: xs

end

end Value

namespace Reduction

/-- What the function of a reduction returns. It has as many parameters as the reduction has
slots, and cannot be applied to more or fewer values. -/
def applied? (m : Meaning ν) (r : Reduction) (params : List ν) : Option ν :=
  if params.length = r.arity then r.value.eval? m params else none

/-- The function of `r` computes the value of the reducer of `p`, with every presence erased:
whatever a presence is made of in the values of `m`, the function gives the erased value for the
erased values of the slots. -/
def Returns (g : Declarations) (p : Production) (r : Reduction) : Prop :=
  ∀ (ν ν' : Type) (m : Meaning ν) (m' : Meaning ν') (erase : ν → ν'),
    m.Erases (m'.renamed interpretedMethod) erase →
      ∀ slots : List ν, slots.length = p.slotCount →
        ∃ v, value? m g slots p.reducer = some v ∧
          r.applied? m' (slots.map erase) = some (erase v)

end Reduction

@[simp] theorem spell_slot (i : Nat) : (Expr.slot i).spell spelling = .param i := rfl

@[simp] theorem spell_none : Expr.none.spell spelling = .none := rfl

@[simp] theorem spell_some (inner : Expr) : inner.some.spell spelling = inner.spell spelling := rfl

@[simp] theorem spell_call (method : String) (signature : Signature) (args : List Expr) :
    (Expr.call method signature args).spell spelling =
      .call (interpretedMethod method) (Expr.spellList spelling args) := rfl

mutual

/-- An expression in the spelling of this target evaluates to what it means where presence leaves
no trace and a method is known by its name in this target. -/
theorem eval?_spell (m : Meaning ν) {params : List ν} :
    ∀ e : Expr, (∀ i ∈ e.slots, i < params.length) →
      (e.spell spelling).eval? m params =
        some (e.spell ((m.renamed interpretedMethod).erased.spelling params))
  | .slot i, h => by
    have hi : i < params.length := h i (by simp [Expr.slots])
    rw [spell_slot, Value.eval?]
    simp [Expr.spell, Meaning.spelling, hi]
  | .none, _ => by
    rw [spell_none, Value.eval?]
    rfl
  | .some inner, h => by
    rw [Expr.slots] at h
    rw [spell_some, eval?_spell m inner h]
    rfl
  | .call method signature args, h => by
    rw [Expr.slots] at h
    rw [spell_call, Value.eval?, evalList?_spellList m args h]
    rfl

/-- The same for several expressions. -/
theorem evalList?_spellList (m : Meaning ν) {params : List ν} :
    ∀ es : List Expr, (∀ i ∈ Expr.slotsOfList es, i < params.length) →
      Value.evalList? m params (Expr.spellList spelling es) =
        some (Expr.spellList ((m.renamed interpretedMethod).erased.spelling params) es)
  | [], _ => by
    rw [Expr.spellList, Value.evalList?]
    rfl
  | e :: es, h => by
    simp only [Expr.slotsOfList, List.mem_append] at h
    rw [Expr.spellList, Value.evalList?, eval?_spell m e fun i hi => h i (.inl hi),
      evalList?_spellList m es fun i hi => h i (.inr hi)]
    rfl

end

variable {g : Declarations}

theorem reductionOf_eq_ok {i : Nat} {p : Production} {r : Reduction}
    (h : reductionOf g i p = .ok r) :
    ∃ e, compile g p = .ok e ∧ r = ⟨i, p.display, p.nt.pretty, p.slotCount, e.spell spelling⟩ := by
  rw [reductionOf, bind_compileIn] at h
  obtain ⟨e, he, h⟩ := bind_eq_ok.1 h
  exact ⟨e, he, (pure_eq_ok.1 h).symm⟩

/-- The function of a production computes the value of its reducer. -/
theorem returns_of_reductionOf {i : Nat} {p : Production} {r : Reduction}
    (h : reductionOf g i p = .ok r) : r.Returns g p := by
  intro ν ν' m m' erase herase slots hl
  obtain ⟨e, he, rfl⟩ := reductionOf_eq_ok h
  have hv : value? m g slots p.reducer = some (e.spell (m.spelling slots)) :=
    value?_of_retain m hl he
  have hl' : (slots.map erase).length = p.slotCount := by rw [List.length_map, hl]
  refine ⟨_, hv, ?_⟩
  rw [Reduction.applied?, if_pos hl',
    eval?_spell m' e fun i hi => hl' ▸ lt_of_mem_slots_of_retain he i hi,
    ← value?_of_retain _ hl' he, ← map_value? herase, hv]
  rfl

end ParserTables.Interpreted
