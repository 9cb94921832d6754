import ParserTables.Proofs.Reduction.Nodes

/-!
# What a compiled reducer is

The result of compiling a reducer, read off the reducer itself. In the spelling of a target it is
the reducer written node by node, where the arguments at parameters of the unit type have been left
out (`pruned`, `printed?`); the slots that it reads are those at the retained nodes. If the reducer
does not compile, the fault is that of the first retained node that has one, where a node comes
before its parts and the parts come from left to right (`retain_eq_error_iff`). The spelling only
has a say in the text (`compileIn_exact`).

Both targets get their texts and slots from `compileIn`, each in its own spelling.
-/

namespace ParserTables

open ParserTables.Grammar

namespace Grammar.Reducer

/-! ### Faults of nodes -/

/-- What is wrong with a node of a production with `slots` slots that messages call `name`. The
arguments of a call are only counted if its method is declared. -/
def fault? (g : Declarations) (slots : Nat) (name : String) : Reducer → Option Fault
  | .slot i => if i < slots then Option.none else Option.some (.slotOutOfRange i slots name)
  | .none => Option.none
  | .some _ => Option.none
  | .call method args =>
    match g.method? method with
    | Option.none => Option.some (.unknownMethod method name)
    | Option.some s =>
      if s.argumentTypes.length = args.length then Option.none
      else Option.some (.arityMismatch method name s.argumentTypes.length args.length)

theorem fault?_eq_none_iff {g : Declarations} {slots : Nat} {name : String} {r : Reducer} :
    r.fault? g slots name = Option.none ↔ r.Fits g slots := by
  cases r with
  | slot i => simp [fault?, Fits]
  | none => simp [fault?, Fits]
  | some inner => simp [fault?, Fits]
  | call method args =>
      rw [fault?, Fits]
      cases g.method? method with
      | none => simp
      | some s => simp

/-! ### Reducers without the arguments that have no value -/

mutual

/-- A reducer without the arguments at parameters of the unit type. -/
def pruned (g : Declarations) : Reducer → Reducer
  | .slot i => .slot i
  | .none => .none
  | .some inner => .some (inner.pruned g)
  | .call method args => .call method (prunedArgs g (g.parameterTypes method) args)

/-- The arguments at parameters of these types, without those at parameters of the unit type. -/
def prunedArgs (g : Declarations) : List ValueType → List Reducer → List Reducer
  | _, [] => []
  | [], r :: rs => r.pruned g :: prunedArgs g [] rs
  | t :: ts, r :: rs =>
    if t = .unit then prunedArgs g ts rs else r.pruned g :: prunedArgs g ts rs

end

mutual

/-- A reducer in a spelling, node by node. A call is spelled with the signature of its method, so
all methods must be declared. -/
def printed? {τ : Type} (s : Reduction.Spelling τ) (g : Declarations) : Reducer → Option τ
  | .slot i => Option.some (s.slot i)
  | .none => Option.some s.none
  | .some inner => (inner.printed? s g).map s.some
  | .call method args =>
    (g.method? method).bind fun signature =>
      (printedList? s g args).map (s.call method signature)

/-- Several reducers in a spelling. -/
def printedList? {τ : Type} (s : Reduction.Spelling τ) (g : Declarations) :
    List Reducer → Option (List τ)
  | [] => Option.some []
  | r :: rs => (r.printed? s g).bind fun t => (printedList? s g rs).map fun ts => t :: ts

end

theorem prunedArgs_cons (g : Declarations) (t : ValueType) (ts : List ValueType) (r : Reducer)
    (rs : List Reducer) :
    prunedArgs g (t :: ts) (r :: rs) =
      if t = .unit then prunedArgs g ts rs else r.pruned g :: prunedArgs g ts rs := by
  rw [prunedArgs]

end Grammar.Reducer

namespace Reduction

open ParserTables.Grammar.Reducer

variable {g : Declarations} {n : Nat} {name : String}

/-! ### Success -/

section Success

variable {τ : Type} (s : Spelling τ)

mutual

/-- What is retained of a reducer is spelled as the reducer itself, without the arguments that
have no value. -/
theorem printed?_pruned_of_retain : ∀ {r : Reducer} {e : Expr}, retain g n name r = .ok e →
    (r.pruned g).printed? s g = some (e.spell s)
  | .slot i, e, h => by
      obtain ⟨-, rfl⟩ := retain_slot_eq_ok h
      rw [pruned, printed?, Expr.spell]
  | .none, e, h => by
      cases h
      rw [pruned, printed?, Expr.spell]
  | .some inner, e, h => by
      obtain ⟨e', he', rfl⟩ := retain_some_eq_ok h
      rw [pruned, printed?, printed?_pruned_of_retain he', Expr.spell]
      rfl
  | .call method args, e, h => by
      obtain ⟨signature, es, hs, hl, hes, rfl⟩ := retain_call_eq_ok h
      rw [pruned, printed?, hs, g.parameterTypes_of_method? hs, Option.bind_some,
        printedList?_prunedArgs_of_retainArgs hl hes, Expr.spell]
      rfl

/-- The same for the arguments of a call, when there are as many as parameters. -/
theorem printedList?_prunedArgs_of_retainArgs :
    ∀ {ts : List ValueType} {rs : List Reducer} {es : List Expr}, ts.length = rs.length →
      retainArgs g n name ts rs = .ok es →
        printedList? s g (prunedArgs g ts rs) = some (Expr.spellList s es)
  | [], [], es, _, h => by
      cases h
      rw [prunedArgs, printedList?, Expr.spellList]
  | t :: ts, r :: rs, es, hl, h => by
      rw [prunedArgs_cons]
      obtain ⟨ht, hes⟩ | ⟨ht, e, es', he, hes, rfl⟩ := retainArgs_cons_eq_ok h
      · rw [if_pos ht, printedList?_prunedArgs_of_retainArgs (Nat.succ.inj hl) hes]
      · rw [if_neg ht, printedList?, printed?_pruned_of_retain he,
          printedList?_prunedArgs_of_retainArgs (Nat.succ.inj hl) hes, Expr.spellList]
        rfl

end

end Success

mutual

/-- What is retained of a reducer reads the slots at its retained nodes. -/
theorem mem_slots_iff_of_retain {i : Nat} : ∀ {r : Reducer} {e : Expr},
    retain g n name r = .ok e → (i ∈ e.slots ↔ .slot i ∈ r.retainedNodes g)
  | .slot j, e, h => by
      obtain ⟨-, rfl⟩ := retain_slot_eq_ok h
      simp [Expr.slots, retainedNodes]
  | .none, e, h => by
      cases h
      simp [Expr.slots, retainedNodes]
  | .some inner, e, h => by
      obtain ⟨e', he', rfl⟩ := retain_some_eq_ok h
      rw [Expr.slots, mem_slots_iff_of_retain he', retainedNodes]
      simp
  | .call method args, e, h => by
      obtain ⟨signature, es, hs, hl, hes, rfl⟩ := retain_call_eq_ok h
      rw [Expr.slots, mem_slotsOfList_iff_of_retainArgs hl hes, retainedNodes,
        g.parameterTypes_of_method? hs]
      simp

/-- The same for the arguments of a call, when there are as many as parameters. -/
theorem mem_slotsOfList_iff_of_retainArgs {i : Nat} :
    ∀ {ts : List ValueType} {rs : List Reducer} {es : List Expr}, ts.length = rs.length →
      retainArgs g n name ts rs = .ok es →
        (i ∈ Expr.slotsOfList es ↔ .slot i ∈ retainedNodesOfArgs g ts rs)
  | [], [], es, _, h => by
      cases h
      simp [Expr.slotsOfList, retainedNodesOfArgs]
  | t :: ts, r :: rs, es, hl, h => by
      rw [retainedNodesOfArgs_cons]
      obtain ⟨ht, hes⟩ | ⟨ht, e, es', he, hes, rfl⟩ := retainArgs_cons_eq_ok h
      · rw [if_pos ht, mem_slotsOfList_iff_of_retainArgs (Nat.succ.inj hl) hes]
      · rw [if_neg ht, Expr.slotsOfList, List.mem_append, List.mem_append,
          mem_slots_iff_of_retain he, mem_slotsOfList_iff_of_retainArgs (Nat.succ.inj hl) hes]

end

/-! ### Failure -/

theorem findSome?_fault?_eq_none_iff (name : String) {nodes : List Reducer} :
    nodes.findSome? (fault? g n name) = Option.none ↔ ∀ node ∈ nodes, node.Fits g n := by
  simp only [List.findSome?_eq_none_iff, fault?_eq_none_iff]

/-- Arguments fail as the first one that is looked at and fails. -/
theorem retainArgs_cons_eq_error_iff {t : ValueType} {ts : List ValueType} {r : Reducer}
    {rs : List Reducer} {fault : Fault} :
    retainArgs g n name (t :: ts) (r :: rs) = .error fault ↔
      t ≠ .unit ∧ retain g n name r = .error fault ∨
        (t = .unit ∨ ∃ e, retain g n name r = .ok e) ∧
          retainArgs g n name ts rs = .error fault := by
  rw [retainArgs]
  by_cases ht : t = .unit
  · subst ht
    simp [ValueType.isUnit]
  · have hunit : t.isUnit = false := Bool.eq_false_iff.2 (mt (ValueType.isUnit_iff t).1 ht)
    rw [hunit, if_neg Bool.false_ne_true, bind_eq_error]
    simp only [ht, ne_eq, not_false_eq_true, true_and, false_or, bind_pure_eq_error,
      exists_and_right]

mutual

/-- A reducer that does not compile has the fault of its first retained node that has one. -/
theorem retain_eq_error_iff {fault : Fault} : ∀ r : Reducer,
    retain g n name r = .error fault ↔
      (r.retainedNodes g).findSome? (fault? g n name) = some fault
  | .slot i => by
      rw [retain, retainedNodes, List.findSome?_singleton, fault?]
      split <;> simp
  | .none => by simp [retain, retainedNodes, fault?]
  | .some inner => by
      rw [retain, map_eq_error, retain_eq_error_iff inner, retainedNodes, List.findSome?_cons]
      rfl
  | .call method args => by
      rw [retain, retainedNodes, List.findSome?_cons, fault?]
      cases hs : g.method? method with
      | none => simp
      | some s =>
          rw [g.parameterTypes_of_method? hs]
          by_cases hl : s.argumentTypes.length = args.length
          · simp only [hl, ne_eq, not_true_eq_false, if_false, if_true, map_eq_error]
            exact retainArgs_eq_error_iff s.argumentTypes args hl
          · simp [hl]

/-- The same for the arguments of a call, when there are as many as parameters. -/
theorem retainArgs_eq_error_iff {fault : Fault} : ∀ (ts : List ValueType) (rs : List Reducer),
    ts.length = rs.length →
      (retainArgs g n name ts rs = .error fault ↔
        (retainedNodesOfArgs g ts rs).findSome? (fault? g n name) = some fault)
  | [], [], _ => by simp [retainArgs, retainedNodesOfArgs]
  | t :: ts, r :: rs, hl => by
      rw [retainArgs_cons_eq_error_iff, retain_eq_error_iff r,
        retainArgs_eq_error_iff ts rs (Nat.succ.inj hl), exists_retain_eq_ok_iff,
        ← findSome?_fault?_eq_none_iff name, retainedNodesOfArgs_cons]
      by_cases ht : t = .unit
      · simp [ht]
      · rw [if_neg ht, List.findSome?_append, Option.or_eq_some_iff]
        simp only [ne_eq, ht, not_false_eq_true, true_and, false_or]

end

/-! ### Compilation in a spelling -/

section CompileIn

variable {τ : Type} {s : Spelling τ} {p : Production}

theorem exists_compileIn_eq_ok_iff :
    (∃ c, compileIn s g p = .ok c) ↔
      ∀ node ∈ p.reducer.retainedNodes g, node.Fits g p.slotCount := by
  rw [← exists_compile_eq_ok_iff, compileIn]
  cases compile g p <;> simp [Except.map]

theorem pairwise_slotsRead (p : Production) (e : Expr) : (slotsRead p e).Pairwise (· < ·) :=
  List.pairwise_lt_range.filter _

theorem printed?_pruned_of_compileIn {text : τ} {slots : List Nat}
    (h : compileIn s g p = .ok (text, slots)) :
    (p.reducer.pruned g).printed? s g = some text ∧ slots.Pairwise (· < ·) ∧
      ∀ i, i ∈ slots ↔ .slot i ∈ p.reducer.retainedNodes g := by
  obtain ⟨e, he, hc⟩ := map_eq_ok.1 h
  obtain ⟨rfl, rfl⟩ := Prod.mk.inj hc
  refine ⟨printed?_pruned_of_retain s he, pairwise_slotsRead p e, fun i => ?_⟩
  rw [mem_slotsRead he, mem_slots_iff_of_retain he]

theorem compileIn_eq_error_iff {fault : Fault} :
    compileIn s g p = .error fault ↔
      (p.reducer.retainedNodes g).findSome? (fault? g p.slotCount p.display) = some fault := by
  rw [compileIn, map_eq_error, compile, retain_eq_error_iff]

end CompileIn

/-- A production compiles exactly if all retained nodes of its reducer fit. Then its text is the
reducer without the arguments that have no value, spelled node by node, and it reads the slots at
the retained nodes; otherwise its fault is that of the first retained node that has one. Whatever
the spelling, the slots and the fault are the same. -/
theorem compileIn_exact (g : Declarations) (p : Production) :
    (∀ {τ : Type} (s : Spelling τ),
      ((∃ c, compileIn s g p = .ok c) ↔
        ∀ node ∈ p.reducer.retainedNodes g, node.Fits g p.slotCount) ∧
      (∀ text slots, compileIn s g p = .ok (text, slots) →
        (p.reducer.pruned g).printed? s g = some text ∧ slots.Pairwise (· < ·) ∧
          ∀ i, i ∈ slots ↔ .slot i ∈ p.reducer.retainedNodes g) ∧
      ∀ fault, compileIn s g p = .error fault ↔
        (p.reducer.retainedNodes g).findSome? (fault? g p.slotCount p.display) = some fault) ∧
    ∀ {τ σ : Type} (s : Spelling τ) (s' : Spelling σ),
      (compileIn s g p).map Prod.snd = (compileIn s' g p).map Prod.snd := by
  refine ⟨fun s => ⟨exists_compileIn_eq_ok_iff, fun _ _ => printed?_pruned_of_compileIn,
    fun _ => compileIn_eq_error_iff⟩, fun s s' => ?_⟩
  rw [compileIn, compileIn]
  cases compile g p <;> rfl

/-- Calls in words. -/
def wordSpelling : Spelling String where
  slot i := "$" ++ toString i
  none := "nothing"
  some inner := "just " ++ inner
  call method _ args := method ++ "(" ++ String.intercalate ", " args ++ ")"

/-- Declarations of a sum, whose sign has no value. -/
def summing : Declarations :=
  { Declarations.empty with
    methods := OrderedMap.empty.insert "sum"
      (.infallible [.named "Expr" [], .unit, .token] (.named "Expr" [])) }

/-- A production of three slots with this reducer. -/
def sumOf (reducer : Reducer) : Production :=
  ⟨.plain "Expr", [.nonterminal (.plain "Expr"), .terminal (.symbol "+"),
    .terminal (.symbol "NUM")], reducer, false⟩

/-- What stands at the sign is not looked at. Of two faults in the other arguments the first one
counts, which belongs to a call without its arguments. -/
theorem compileIn_exact_summing :
    let good := sumOf (.call "sum" [.some (.slot 0), .call "lost" [.slot 9], .slot 2])
    let bad := sumOf (.call "sum" [.call "sum" [.slot 8], .none, .slot 7])
    (compileIn wordSpelling summing good = .ok ("sum(just $0, $2)", [0, 2]) ∧
      (good.reducer.pruned summing).printed? wordSpelling summing = some "sum(just $0, $2)") ∧
    (bad.reducer.retainedNodes summing).findSome? (fault? summing bad.slotCount bad.display) =
      some (.arityMismatch "sum" bad.display 3 1) := by
  intro good bad
  have hgood : compileIn wordSpelling summing good = .ok ("sum(just $0, $2)", [0, 2]) := by
    decide +kernel
  have hbad : compileIn wordSpelling summing bad =
      .error (.arityMismatch "sum" bad.display 3 1) := by
    decide +kernel
  obtain ⟨-, hprinted, -⟩ := (compileIn_exact summing good).1 wordSpelling
  obtain ⟨-, -, hfault⟩ := (compileIn_exact summing bad).1 wordSpelling
  exact ⟨⟨hgood, (hprinted _ _ hgood).1⟩, (hfault _).1 hbad⟩

end Reduction

end ParserTables
