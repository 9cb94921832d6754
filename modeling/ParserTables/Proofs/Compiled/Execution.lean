import Mathlib.Data.List.Induction
import Mathlib.Logic.Function.Basic
import ParserTables.Compiled.Emission
import ParserTables.Proofs.Reduction.Value

/-!
# Performing a reduction

What the statements of an arm do to the value stack. Casts and conversions for the stack are read
as the identity, and a method of the handler is an uninterpreted function. A statement that binds
needs a value to pop and fails without one, like an expression over a local that is not bound.

`run?_armBody` is the main result: an arm replaces the values of its slots, and nothing below
them, by the value of its reducer. The stack is a list with its top first, so the values of the
slots are met from the last to the first.
-/

namespace ParserTables.Compiled

open ParserTables.Grammar ParserTables.Naming
open ParserTables.Reduction (Expr Meaning compile slotsRead bind_compileIn mem_slotsRead
  retain_slot_eq_ok lt_of_mem_slots_of_retain value? value?_of_retain)

variable {ν : Type}

namespace Value

mutual

/-- What an expression evaluates to over the values of the locals. -/
def eval? (m : Meaning ν) (bound : Nat → Option ν) : Value → Option ν
  | .binding i => bound i
  | .none => Option.some m.absent
  | .some inner => (eval? m bound inner).map m.present
  | .call method args _ => (evalList? m bound args).map (m.result method)

/-- What several expressions evaluate to. -/
def evalList? (m : Meaning ν) (bound : Nat → Option ν) : List Value → Option (List ν)
  | [] => Option.some []
  | v :: rest => (eval? m bound v).bind fun x => (evalList? m bound rest).map fun xs => x :: xs

end

mutual

/-- The locals that an expression reads. -/
def locals : Value → List Nat
  | .binding i => [i]
  | .none => []
  | .some inner => inner.locals
  | .call _ args _ => localsOfList args

/-- The locals that several expressions read. -/
def localsOfList : List Value → List Nat
  | [] => []
  | v :: rest => v.locals ++ localsOfList rest

end

end Value

/-- The stack while an arm is performed, its top first, and the values of the locals. -/
structure Machine (ν : Type) where
  bound : Nat → Option ν
  stack : List ν

namespace Statement

/-- The local that a statement binds. -/
def bound? : Statement → Option Nat
  | .take i | .cast i _ => some i
  | _ => none

/-- The expression that a statement pushes. -/
def pushed? : Statement → Option Value
  | .restore v | .push v => some v
  | _ => none

/-- One statement. Dropping from an empty stack does nothing. -/
def step? (m : Meaning ν) (s : Machine ν) : Statement → Option (Machine ν)
  | .drop => some { s with stack := s.stack.tail }
  | .take i | .cast i _ =>
    match s.stack with
    | [] => none
    | v :: rest => some ⟨Function.update s.bound i (some v), rest⟩
  | .restore e | .push e => (e.eval? m s.bound).map fun v => { s with stack := v :: s.stack }

/-- Several statements, one after the other. -/
def run? (m : Meaning ν) (s : Machine ν) : List Statement → Option (Machine ν)
  | [] => some s
  | st :: rest => (st.step? m s).bind fun s => run? m s rest

@[simp] theorem run?_nil (m : Meaning ν) (s : Machine ν) : run? m s [] = some s := rfl

theorem run?_cons (m : Meaning ν) (s : Machine ν) (st : Statement) (rest : List Statement) :
    run? m s (st :: rest) = (st.step? m s).bind fun s => run? m s rest := rfl

theorem run?_append (m : Meaning ν) (s : Machine ν) (sts rest : List Statement) :
    run? m s (sts ++ rest) = (run? m s sts).bind fun s => run? m s rest := by
  induction sts generalizing s with
  | nil => rfl
  | cons st sts ih =>
      rw [List.cons_append, run?_cons, run?_cons]
      cases st.step? m s with
      | none => rfl
      | some s => exact ih s

end Statement

namespace Arm

/-- The stack after an arm. No local is bound when it starts. -/
def run? (m : Meaning ν) (stack : List ν) (arm : Arm) : Option (List ν) :=
  (Statement.run? m ⟨fun _ => none, stack⟩ arm.body).map Machine.stack

/-- Every local that the arm binds is read by an expression that it pushes. -/
def BindsOnlyRead (arm : Arm) : Prop :=
  ∀ st ∈ arm.body, ∀ i, st.bound? = some i →
    ∃ st' ∈ arm.body, ∃ v, st'.pushed? = some v ∧ i ∈ v.locals

/-- The arm performs the reductions of `p`: on a stack that holds a value for each slot, the last
slot on top, it replaces these values by the value of the reducer, and leaves what is below them
alone. It never reads a local that is not bound. -/
def Performs (g : Declarations) (p : Production) (arm : Arm) : Prop :=
  ∀ (ν : Type) (m : Meaning ν) (stack : List ν), p.slotCount ≤ stack.length →
    ∃ v, value? (m.renamed compiledMethod) g (stack.take p.slotCount).reverse p.reducer = some v ∧
      arm.run? m stack = some (v :: stack.drop p.slotCount)

end Arm

/-! ### Expressions -/

section Spelling

variable (settings : CompiledSettings)

@[simp] theorem spell_slot (i : Nat) :
    (Expr.slot i).spell (spelling settings) = .binding i := rfl

@[simp] theorem spell_none : Expr.none.spell (spelling settings) = .none := rfl

@[simp] theorem spell_some (inner : Expr) :
    inner.some.spell (spelling settings) = .some (inner.spell (spelling settings)) := rfl

@[simp] theorem spell_call (method : String) (signature : Signature) (args : List Expr) :
    (Expr.call method signature args).spell (spelling settings) =
      .call (compiledMethod method) (Expr.spellList (spelling settings) args)
        (signature.fallible || settings.listsFallible (compiledMethod method)) := rfl

end Spelling

mutual

/-- An expression in the spelling of this target evaluates to what it means, where a method is
known by its name in this target. -/
theorem eval?_spell (settings : CompiledSettings) (m : Meaning ν) {slots : List ν}
    {bound : Nat → Option ν} :
    ∀ e : Expr, (∀ i ∈ e.slots, bound i = some (slots.getD i m.absent)) →
      (e.spell (spelling settings)).eval? m bound =
        some (e.spell ((m.renamed compiledMethod).spelling slots))
  | .slot i, h => by
    rw [spell_slot, Value.eval?, h i (by simp [Expr.slots])]
    rfl
  | .none, _ => by
    rw [spell_none, Value.eval?]
    rfl
  | .some inner, h => by
    rw [Expr.slots] at h
    rw [spell_some, Value.eval?, eval?_spell settings m inner h]
    rfl
  | .call method signature args, h => by
    rw [Expr.slots] at h
    rw [spell_call, Value.eval?, evalList?_spellList settings m args h]
    rfl

/-- The same for several expressions. -/
theorem evalList?_spellList (settings : CompiledSettings) (m : Meaning ν) {slots : List ν}
    {bound : Nat → Option ν} :
    ∀ es : List Expr,
      (∀ i ∈ Expr.slotsOfList es, bound i = some (slots.getD i m.absent)) →
        Value.evalList? m bound (Expr.spellList (spelling settings) es) =
          some (Expr.spellList ((m.renamed compiledMethod).spelling slots) es)
  | [], _ => by
    rw [Expr.spellList, Value.evalList?]
    rfl
  | e :: es, h => by
    simp only [Expr.slotsOfList, List.mem_append] at h
    rw [Expr.spellList, Value.evalList?, eval?_spell settings m e fun i hi => h i (.inl hi),
      evalList?_spellList settings m es fun i hi => h i (.inr hi)]
    rfl

end

mutual

/-- The locals of an expression are the slots that it reads. -/
theorem locals_spell (settings : CompiledSettings) :
    ∀ e : Expr, (e.spell (spelling settings)).locals = e.slots
  | .slot _ => rfl
  | .none => rfl
  | .some inner => by
    rw [spell_some, Value.locals, Expr.slots, locals_spell settings inner]
  | .call _ _ args => by
    rw [spell_call, Value.locals, Expr.slots, localsOfList_spellList settings args]

/-- The same for several expressions. -/
theorem localsOfList_spellList (settings : CompiledSettings) :
    ∀ es : List Expr,
      Value.localsOfList (Expr.spellList (spelling settings) es) = Expr.slotsOfList es
  | [] => rfl
  | e :: es => by
    rw [Expr.spellList, Value.localsOfList, Expr.slotsOfList, locals_spell settings e,
      localsOfList_spellList settings es]

end

/-! ### Popping the slots -/

/-- The locals after the values of the slots have been popped: the slots that are read are
bound. -/
def boundAfter (read : List Nat) (slots : List ν) (bound : Nat → Option ν) : Nat → Option ν :=
  fun i => if i ∈ read ∧ i < slots.length then slots[i]? else bound i

@[simp] theorem boundAfter_nil (read : List Nat) (bound : Nat → Option ν) :
    boundAfter read [] bound = bound := by
  funext i
  simp [boundAfter]

/-- The value of the last slot is popped first, and may be bound first. -/
theorem boundAfter_append_singleton (read : List Nat) (slots : List ν) (v : ν)
    (bound : Nat → Option ν) :
    boundAfter read (slots ++ [v]) bound =
      boundAfter read slots
        (if slots.length ∈ read then Function.update bound slots.length (some v) else bound) := by
  funext i
  simp only [boundAfter, List.length_append, List.length_cons, List.length_nil]
  rcases Nat.lt_trichotomy i slots.length with hi | hi | hi
  · have hlt : i < slots.length + 1 := by omega
    have hne : i ≠ slots.length := by omega
    simp only [hi, hlt, and_true, List.getElem?_append_left hi]
    by_cases hr : i ∈ read
    · simp [hr]
    · simp only [hr, if_false]
      split <;> simp [Function.update_of_ne hne]
  · subst hi
    by_cases hr : slots.length ∈ read <;> simp [hr]
  · have hlt : ¬ i < slots.length := by omega
    have hlt' : ¬ i < slots.length + 1 := by omega
    have hne : i ≠ slots.length := by omega
    simp only [hlt, hlt', and_false, if_false]
    split <;> simp [Function.update_of_ne hne]

variable {settings : CompiledSettings} {g : Declarations} {shape : Production.Shape}
  {read : List Nat}

/-- The value of a slot that is not read is dropped. The value of one that is read is bound as it
is, or cast to the type of its element if the production computes with it. -/
theorem popStatement_eq_ok {slot : Element × Nat} {st : Statement}
    (h : popStatement settings g shape read slot = .ok st) :
    (slot.2 ∉ read ∧ st = .drop) ∨
      (slot.2 ∈ read ∧ shape ≠ .full ∧ st = .take slot.2) ∨
      (slot.2 ∈ read ∧ shape = .full ∧ ∃ t type, elementType g slot.1 = .ok t ∧
        spellType settings.typeSpace true t = .ok type ∧ st = .cast slot.2 type) := by
  unfold popStatement at h
  by_cases hr : slot.2 ∈ read
  · have hc : read.contains slot.2 = true := List.contains_iff_mem.2 hr
    simp only [hc, Bool.not_true, Bool.false_eq_true, if_false] at h
    refine .inr ?_
    split at h
    · obtain ⟨t, ht, h⟩ := bind_eq_ok.1 h
      obtain ⟨type, htype, h⟩ := bind_eq_ok.1 h
      exact .inr ⟨hr, rfl, t, type, ht, htype, (pure_eq_ok.1 h).symm⟩
    · next hs =>
      cases h
      exact .inl ⟨hr, hs, rfl⟩
  · have hc : read.contains slot.2 = false := by simpa using hr
    simp only [hc, Bool.not_false, if_true] at h
    cases h
    exact .inl ⟨hr, rfl⟩

theorem bound?_popStatement {slot : Element × Nat} {st : Statement}
    (h : popStatement settings g shape read slot = .ok st) :
    st.bound? = if slot.2 ∈ read then some slot.2 else none := by
  obtain ⟨hr, rfl⟩ | ⟨hr, -, rfl⟩ | ⟨hr, -, t, type, -, -, rfl⟩ := popStatement_eq_ok h
  · rw [if_neg hr]
    rfl
  · rw [if_pos hr]
    rfl
  · rw [if_pos hr]
    rfl

theorem step?_popStatement (m : Meaning ν) {slot : Element × Nat} {st : Statement}
    (h : popStatement settings g shape read slot = .ok st) (bound : Nat → Option ν) (v : ν)
    (rest : List ν) :
    st.step? m ⟨bound, v :: rest⟩ =
      some ⟨if slot.2 ∈ read then Function.update bound slot.2 (some v) else bound, rest⟩ := by
  obtain ⟨hr, rfl⟩ | ⟨hr, -, rfl⟩ | ⟨hr, -, t, type, -, -, rfl⟩ := popStatement_eq_ok h
  · rw [if_neg hr]
    rfl
  · rw [if_pos hr]
    rfl
  · rw [if_pos hr]
    rfl

/-- The statements of the slots pop their values and nothing below, and bind those that are
read. -/
theorem run?_popStatements (m : Meaning ν) {elements : List Element} {slots : List ν}
    (hl : slots.length = elements.length) {sts : List Statement}
    (h : elements.zipIdx.reverse.mapM (popStatement settings g shape read) = .ok sts)
    (bound : Nat → Option ν) (below : List ν) :
    Statement.run? m ⟨bound, slots.reverse ++ below⟩ sts =
      some ⟨boundAfter read slots bound, below⟩ := by
  induction elements using List.reverseRecOn generalizing slots sts bound with
  | nil =>
      obtain rfl : slots = [] := List.length_eq_zero_iff.1 hl
      obtain rfl := mapM_nil_eq_ok.1 h
      simp
  | append_singleton elements e ih =>
      obtain ⟨slots, v, rfl⟩ : ∃ vs v, slots = vs ++ [v] := by
        have hne : slots ≠ [] := by
          rintro rfl
          simp at hl
        exact ⟨_, _, (List.dropLast_concat_getLast hne).symm⟩
      have hl' : slots.length = elements.length := by simpa using hl
      simp only [List.zipIdx_append, List.zipIdx_cons, List.zipIdx_nil, List.reverse_append,
        List.reverse_cons, List.reverse_nil, List.nil_append, List.singleton_append,
        Nat.zero_add] at h
      obtain ⟨st, sts', hst, hsts, rfl⟩ := mapM_cons_eq_ok.1 h
      rw [List.reverse_append, List.reverse_singleton, List.singleton_append, List.cons_append,
        Statement.run?_cons, step?_popStatement m hst, Option.bind_some, ih hl' hsts,
        boundAfter_append_singleton, hl']

/-! ### Arms -/

/-- The body of an arm is empty if the only slot is the value. Otherwise it pops the slots, from
the last to the first, and pushes one value. -/
theorem armBody_eq_ok {p : Production} {value : Value} {read : List Nat} {body : List Statement}
    (h : armBody settings g p value read = .ok body) :
    (p.shape = .trivial ∧ body = []) ∨
      (p.shape ≠ .trivial ∧ ∃ pops,
        p.concrete.zipIdx.reverse.mapM (popStatement settings g p.shape read) = .ok pops ∧
        body = pops ++ [pushStatement p.shape value]) := by
  rw [armBody] at h
  split at h
  · next hs =>
    cases h
    exact .inl ⟨hs, rfl⟩
  · next hs =>
    obtain ⟨pops, hpops, h⟩ := bind_eq_ok.1 h
    exact .inr ⟨hs, pops, hpops, (pure_eq_ok.1 h).symm⟩

theorem pushed?_pushStatement (v : Value) : (pushStatement shape v).pushed? = some v := by
  cases shape <;> rfl

theorem step?_pushStatement (m : Meaning ν) (s : Machine ν) (v : Value) :
    (pushStatement shape v).step? m s =
      (v.eval? m s.bound).map fun x => { s with stack := x :: s.stack } := by
  cases shape <;> rfl

/-- The body of an arm replaces the values of the slots by the value of the compiled reducer. -/
theorem run?_armBody {p : Production} {e : Expr} {body : List Statement}
    (he : compile g p = .ok e)
    (h : armBody settings g p (e.spell (spelling settings)) (slotsRead p e) = .ok body)
    (m : Meaning ν)
    {slots : List ν} (hl : slots.length = p.slotCount) (below : List ν) :
    (Statement.run? m ⟨fun _ => none, slots.reverse ++ below⟩ body).map Machine.stack =
      some (e.spell ((m.renamed compiledMethod).spelling slots) :: below) := by
  obtain ⟨hs, rfl⟩ | ⟨-, pops, hpops, rfl⟩ := armBody_eq_ok h
  · obtain ⟨hr, hn⟩ := (Production.shape_eq_trivial_iff p).1 hs
    obtain ⟨v, rfl⟩ := List.length_eq_one_iff.1 (hl.trans hn)
    rw [compile, hr] at he
    obtain ⟨-, rfl⟩ := retain_slot_eq_ok he
    rfl
  · have hbound : ∀ i ∈ e.slots,
        boundAfter (slotsRead p e) slots (fun _ => none) i = some (slots.getD i m.absent) := by
      intro i hi
      have hlt : i < slots.length := hl ▸ lt_of_mem_slots_of_retain he i hi
      simp [boundAfter, mem_slotsRead he, hi, hlt]
    rw [Statement.run?_append, run?_popStatements m hl hpops, Option.bind_some,
      Statement.run?_cons, step?_pushStatement, eval?_spell settings m e hbound]
    rfl

/-- A local is bound only for a slot that the pushed value reads. -/
theorem bindsOnlyRead_of_armBody {p : Production} {e : Expr} {arm : Arm}
    (he : compile g p = .ok e)
    (h : armBody settings g p (e.spell (spelling settings)) (slotsRead p e) = .ok arm.body) :
    arm.BindsOnlyRead := by
  intro st hst i hi
  obtain ⟨-, hb⟩ | ⟨-, pops, hpops, hb⟩ := armBody_eq_ok h
  · rw [hb] at hst
    cases hst
  · rw [hb, List.mem_append, List.mem_singleton] at hst
    obtain hst | rfl := hst
    · obtain ⟨slot, -, hslot⟩ := exists_of_mem_mapM hpops hst
      rw [bound?_popStatement hslot] at hi
      split at hi
      · next hr =>
        cases hi
        have hpush : pushStatement p.shape (e.spell (spelling settings)) ∈ arm.body := by
          rw [hb]
          simp
        refine ⟨_, hpush, _, pushed?_pushStatement _, ?_⟩
        rw [locals_spell]
        exact (mem_slotsRead he).1 hr
      · cases hi
    · cases hp : p.shape <;> simp [pushStatement, hp, Statement.bound?] at hi

theorem armOf_eq_ok {i : Nat} {p : Production} {arm : Arm}
    (h : armOf settings g i p = .ok arm) :
    arm.index = i ∧ arm.comment = p.display ∧ arm.result = nonterminalCamel p.nt ∧
      ∃ e, compile g p = .ok e ∧
        armBody settings g p (e.spell (spelling settings)) (slotsRead p e) = .ok arm.body := by
  rw [armOf, bind_compileIn] at h
  obtain ⟨e, he, h⟩ := bind_eq_ok.1 h
  obtain ⟨body, hbody, h⟩ := bind_eq_ok.1 h
  cases pure_eq_ok.1 h
  exact ⟨rfl, rfl, rfl, e, he, hbody⟩

/-- The arm of a production performs its reductions. -/
theorem performs_of_armOf {i : Nat} {p : Production} {arm : Arm}
    (h : armOf settings g i p = .ok arm) : arm.Performs g p := by
  intro ν m stack hs
  obtain ⟨-, -, -, e, he, hbody⟩ := armOf_eq_ok h
  have hl : (stack.take p.slotCount).reverse.length = p.slotCount := by
    rw [List.length_reverse, List.length_take, Nat.min_eq_left hs]
  refine ⟨_, value?_of_retain _ hl he, ?_⟩
  have hrun := run?_armBody he hbody m hl (stack.drop p.slotCount)
  rwa [List.reverse_reverse, List.take_append_drop] at hrun

end ParserTables.Compiled
