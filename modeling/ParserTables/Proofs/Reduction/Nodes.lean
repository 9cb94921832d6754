import ParserTables.Proofs.Reduction.Value

/-!
# The nodes of reducers

A reducer is a tree, and the invariant of documents speaks of every node of it: a slot is one of
the slots of the production, and a call fits the method that it names. Compilation does not look
into an argument at a parameter of the unit type. A reducer therefore compiles exactly if the
invariant holds at the nodes outside of these arguments (`exists_retain_eq_ok_iff`), and the calls
that are generated for it are those at these nodes (`calledTags`).
-/

namespace ParserTables

open ParserTables.Grammar

/-- The types of the parameters of a method. A method that is not declared has no parameters. -/
def Grammar.Declarations.parameterTypes (g : Declarations) (method : String) : List ValueType :=
  match g.method? method with
  | some s => s.argumentTypes
  | none => []

theorem Grammar.Declarations.parameterTypes_of_method? {g : Declarations} {method : String}
    {s : Signature} (h : g.method? method = some s) : g.parameterTypes method = s.argumentTypes := by
  rw [parameterTypes, h]

namespace Grammar.Reducer

/-- What the invariant says about a node of a production with `slots` slots: a slot is there, and
a call names a declared method and has as many arguments as the method declares. -/
def Fits (g : Declarations) (slots : Nat) : Reducer → Prop
  | .slot i => i < slots
  | .none => True
  | .some _ => True
  | .call method args => ∃ s, g.method? method = .some s ∧ s.argumentTypes.length = args.length

mutual

/-- The nodes of a reducer: the reducer itself, and then the nodes of its parts from left to
right. -/
def nodes : Reducer → List Reducer
  | .slot i => [.slot i]
  | .none => [.none]
  | .some inner => .some inner :: inner.nodes
  | .call method args => .call method args :: nodesOfList args

/-- The nodes of several reducers. -/
def nodesOfList : List Reducer → List Reducer
  | [] => []
  | r :: rest => r.nodes ++ nodesOfList rest

end

mutual

/-- The nodes of a reducer that do not stand in an argument at a parameter of the unit type, in
the same order. -/
def retainedNodes (g : Declarations) : Reducer → List Reducer
  | .slot i => [.slot i]
  | .none => [.none]
  | .some inner => .some inner :: inner.retainedNodes g
  | .call method args => .call method args :: retainedNodesOfArgs g (g.parameterTypes method) args

/-- The retained nodes of arguments at parameters of these types. Arguments behind the last
parameter are retained. -/
def retainedNodesOfArgs (g : Declarations) : List ValueType → List Reducer → List Reducer
  | _, [] => []
  | [], r :: rs => r.retainedNodes g ++ retainedNodesOfArgs g [] rs
  | t :: ts, r :: rs =>
    if t = .unit then retainedNodesOfArgs g ts rs
    else r.retainedNodes g ++ retainedNodesOfArgs g ts rs

end

theorem retainedNodesOfArgs_cons (g : Declarations) (t : ValueType) (ts : List ValueType)
    (r : Reducer) (rs : List Reducer) :
    retainedNodesOfArgs g (t :: ts) (r :: rs) =
      if t = .unit then retainedNodesOfArgs g ts rs
      else r.retainedNodes g ++ retainedNodesOfArgs g ts rs := by
  rw [retainedNodesOfArgs]

section Unitless

variable {g : Declarations}

mutual

/-- Nothing is cut off where no method has a parameter of the unit type. -/
theorem retainedNodes_eq_nodes (hg : ∀ method, .unit ∉ g.parameterTypes method) :
    ∀ r : Reducer, r.retainedNodes g = r.nodes
  | .slot i => by rw [retainedNodes, nodes]
  | .none => by rw [retainedNodes, nodes]
  | .some inner => by rw [retainedNodes, nodes, retainedNodes_eq_nodes hg inner]
  | .call method args => by
      rw [retainedNodes, nodes, retainedNodesOfArgs_eq_nodesOfList hg (hg method) args]

theorem retainedNodesOfArgs_eq_nodesOfList (hg : ∀ method, .unit ∉ g.parameterTypes method) :
    ∀ {ts : List ValueType}, .unit ∉ ts →
      ∀ rs : List Reducer, retainedNodesOfArgs g ts rs = nodesOfList rs
  | _, _, [] => by rw [retainedNodesOfArgs, nodesOfList]
  | [], hts, r :: rs => by
      rw [retainedNodesOfArgs, nodesOfList, retainedNodes_eq_nodes hg r,
        retainedNodesOfArgs_eq_nodesOfList hg hts rs]
  | t :: ts, hts, r :: rs => by
      obtain ⟨ht, hts⟩ := not_or.1 (mt List.mem_cons.2 hts)
      rw [retainedNodesOfArgs_cons, if_neg (Ne.symm ht), nodesOfList, retainedNodes_eq_nodes hg r,
        retainedNodesOfArgs_eq_nodesOfList hg hts rs]

end

end Unitless

/-! ### Calls -/

/-- The tag of the method that a node calls. -/
def calledTag? : Reducer → Option String
  | .call method _ => Option.some method
  | _ => Option.none

/-- The tags of the calls in a reducer that do not stand in an argument at a parameter of the unit
type, from the outside to the inside and from left to right. -/
def calledTags (g : Declarations) (r : Reducer) : List String :=
  (r.retainedNodes g).filterMap calledTag?

/-- The same for arguments at parameters of these types. -/
def calledTagsOfArgs (g : Declarations) (ts : List ValueType) (rs : List Reducer) : List String :=
  (retainedNodesOfArgs g ts rs).filterMap calledTag?

theorem calledTags_slot (g : Declarations) (i : Nat) : calledTags g (.slot i) = [] := by
  rw [calledTags, retainedNodes]
  rfl

theorem calledTags_none (g : Declarations) : calledTags g .none = [] := by
  rw [calledTags, retainedNodes]
  rfl

theorem calledTags_some (g : Declarations) (inner : Reducer) :
    calledTags g (.some inner) = calledTags g inner := by
  rw [calledTags, retainedNodes, calledTags]
  exact List.filterMap_cons_none rfl

theorem calledTags_call {g : Declarations} {method : String} {args : List Reducer} {s : Signature}
    (h : g.method? method = .some s) :
    calledTags g (.call method args) = method :: calledTagsOfArgs g s.argumentTypes args := by
  rw [calledTags, retainedNodes, g.parameterTypes_of_method? h, calledTagsOfArgs]
  exact List.filterMap_cons_some rfl

theorem calledTagsOfArgs_nil (g : Declarations) : calledTagsOfArgs g [] [] = [] := by
  rw [calledTagsOfArgs, retainedNodesOfArgs]
  rfl

theorem calledTagsOfArgs_cons_unit (g : Declarations) (ts : List ValueType) (r : Reducer)
    (rs : List Reducer) :
    calledTagsOfArgs g (.unit :: ts) (r :: rs) = calledTagsOfArgs g ts rs := by
  rw [calledTagsOfArgs, retainedNodesOfArgs_cons, if_pos rfl, calledTagsOfArgs]

theorem calledTagsOfArgs_cons {g : Declarations} {t : ValueType} (ht : t ≠ .unit)
    (ts : List ValueType) (r : Reducer) (rs : List Reducer) :
    calledTagsOfArgs g (t :: ts) (r :: rs) = calledTags g r ++ calledTagsOfArgs g ts rs := by
  rw [calledTagsOfArgs, retainedNodesOfArgs_cons, if_neg ht, List.filterMap_append, calledTags,
    calledTagsOfArgs]

end Grammar.Reducer

namespace Reduction

open ParserTables.Grammar.Reducer

variable {g : Declarations} {n : Nat} {name : String}

/-- Where there is an argument for each parameter, what is retained are the arguments at
parameters with a value. -/
theorem length_of_retainArgs : ∀ {ts : List ValueType} {rs : List Reducer} {es : List Expr},
    ts.length = rs.length → retainArgs g n name ts rs = .ok es →
      es.length = (ts.filter fun t => !t.isUnit).length
  | [], [], es, _, h => by
      cases h
      rfl
  | t :: ts, r :: rs, es, hl, h => by
      obtain ⟨rfl, hes⟩ | ⟨ht, e, es', he, hes, rfl⟩ := retainArgs_cons_eq_ok h
      · rw [length_of_retainArgs (Nat.succ.inj hl) hes]
        rfl
      · have hunit : t.isUnit = false := Bool.eq_false_iff.2 (mt (ValueType.isUnit_iff t).1 ht)
        rw [List.length_cons, length_of_retainArgs (Nat.succ.inj hl) hes, List.filter_cons, hunit]
        rfl

theorem exists_retainArgs_cons_eq_ok_iff {t : ValueType} {ts : List ValueType} {r : Reducer}
    {rs : List Reducer} :
    (∃ es, retainArgs g n name (t :: ts) (r :: rs) = .ok es) ↔
      (t = .unit ∨ ∃ e, retain g n name r = .ok e) ∧
        ∃ es, retainArgs g n name ts rs = .ok es := by
  constructor
  · rintro ⟨es, h⟩
    obtain ⟨ht, hes⟩ | ⟨-, e, es', he, hes, -⟩ := retainArgs_cons_eq_ok h
    · exact ⟨.inl ht, es, hes⟩
    · exact ⟨.inr ⟨e, he⟩, es', hes⟩
  · rintro ⟨hr, es, hes⟩
    rw [retainArgs]
    by_cases ht : t = .unit
    · subst ht
      exact ⟨es, by simpa [ValueType.isUnit] using hes⟩
    · have hu : t.isUnit = false := Bool.eq_false_iff.2 (mt (ValueType.isUnit_iff t).1 ht)
      obtain ⟨e, he⟩ := hr.resolve_left ht
      rw [hu, he, hes]
      exact ⟨e :: es, rfl⟩

mutual

/-- A reducer compiles exactly if the invariant holds at every retained node. -/
theorem exists_retain_eq_ok_iff : ∀ r : Reducer,
    (∃ e, retain g n name r = .ok e) ↔ ∀ node ∈ r.retainedNodes g, node.Fits g n
  | .slot i => by
      rw [retain, retainedNodes, List.forall_mem_singleton, Fits]
      by_cases h : i < n
      · simp [h]
      · simp [h]
  | .none => by simp [retain, retainedNodes, Fits]
  | .some inner => by
      rw [retainedNodes, List.forall_mem_cons, ← exists_retain_eq_ok_iff inner]
      constructor
      · rintro ⟨e, h⟩
        obtain ⟨e', he', -⟩ := retain_some_eq_ok h
        exact ⟨trivial, e', he'⟩
      · rintro ⟨-, e', he'⟩
        exact ⟨.some e', by rw [retain, he', Except.map]⟩
  | .call method args => by
      rw [retainedNodes, List.forall_mem_cons]
      constructor
      · rintro ⟨e, h⟩
        obtain ⟨s, es, hs, hl, hes, -⟩ := retain_call_eq_ok h
        rw [g.parameterTypes_of_method? hs]
        exact ⟨⟨s, hs, hl⟩, (exists_retainArgs_eq_ok_iff s.argumentTypes args hl).1 ⟨es, hes⟩⟩
      · rintro ⟨⟨s, hs, hl⟩, hargs⟩
        rw [g.parameterTypes_of_method? hs] at hargs
        obtain ⟨es, hes⟩ := (exists_retainArgs_eq_ok_iff s.argumentTypes args hl).2 hargs
        exact ⟨.call method s es, by simp [retain, hs, hl, hes, Except.map]⟩

/-- The same for the arguments of a call, when there are as many as parameters. -/
theorem exists_retainArgs_eq_ok_iff : ∀ (ts : List ValueType) (rs : List Reducer),
    ts.length = rs.length →
      ((∃ es, retainArgs g n name ts rs = .ok es) ↔
        ∀ node ∈ retainedNodesOfArgs g ts rs, node.Fits g n)
  | [], [], _ => by simp [retainArgs, retainedNodesOfArgs]
  | t :: ts, r :: rs, hl => by
      rw [exists_retainArgs_cons_eq_ok_iff, exists_retain_eq_ok_iff r,
        exists_retainArgs_eq_ok_iff ts rs (Nat.succ.inj hl), retainedNodesOfArgs_cons]
      by_cases ht : t = .unit
      · simp [ht]
      · rw [if_neg ht, List.forall_mem_append, or_iff_right ht]

end

/-- A production compiles exactly if the invariant holds at every retained node of its
reducer. -/
theorem exists_compile_eq_ok_iff {p : Production} :
    (∃ e, compile g p = .ok e) ↔
      ∀ node ∈ p.reducer.retainedNodes g, node.Fits g p.slotCount :=
  exists_retain_eq_ok_iff p.reducer

end Reduction

end ParserTables
