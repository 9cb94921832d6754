import ParserTables.Proofs.Document.Reload

/-!
# Types in documents

Which written types stand for a type, and which types are the ones that their written form stands
for. Both are questions about single nodes: a written type is accepted if each node has a name and
as many arguments as the name takes, and a type is given back unless a declared type in it has the
spelling of a built-in one. The types of a document that was loaded are of this kind
(`ofWritten_settles_shape`).
-/

namespace ParserTables

open ParserTables.Grammar

/-! ### Nodes of types -/

namespace Grammar

mutual

/-- The nodes of a written type: the type itself, and then the nodes of its arguments. -/
def WrittenType.nodes : WrittenType → List WrittenType
  | .mk name args => .mk name args :: WrittenType.nodesOfList args

/-- The nodes of several written types. -/
def WrittenType.nodesOfList : List WrittenType → List WrittenType
  | [] => []
  | t :: rest => t.nodes ++ WrittenType.nodesOfList rest

end

mutual

/-- The nodes of a type: the type itself, and then the nodes of its parts. -/
def ValueType.nodes : ValueType → List ValueType
  | .unit => [.unit]
  | .token => [.token]
  | .option inner => .option inner :: inner.nodes
  | .sequence inner => .sequence inner :: inner.nodes
  | .named name args => .named name args :: ValueType.nodesOfList args

/-- The nodes of several types. -/
def ValueType.nodesOfList : List ValueType → List ValueType
  | [] => []
  | t :: rest => t.nodes ++ ValueType.nodesOfList rest

end

/-- The names that no declared type can have: four have a meaning of their own, and the empty name
is none. -/
def reservedNames : List String := ["", "()", "Token", "Option", "Vec"]

/-- A node of a written type has a name, and as many arguments as a built-in name takes. -/
def WrittenType.WellShaped : WrittenType → Prop
  | .mk name args =>
    name ≠ "" ∧ (name = "()" ∨ name = "Token" → args = []) ∧
      (name = "Option" ∨ name = "Vec" → args.length = 1)

/-- A declared type that is spelled like something else. -/
def ValueType.Misnamed : ValueType → Prop
  | .named name _ => name ∈ reservedNames
  | _ => False

/-- No declared type in the type is spelled like something else. -/
def ValueType.WellNamed (t : ValueType) : Prop := ∀ node ∈ t.nodes, ¬ node.Misnamed

/-- The types in the declarations: those of the nonterminals, and those of the arguments and
results of methods. -/
def Declarations.types (g : Declarations) : List ValueType :=
  g.nonterminalTypes.entries.map (·.2) ++
    g.methods.entries.flatMap fun e => e.2.argumentTypes ++ [e.2.returnType]

end Grammar

namespace Grammar.ValueType

/-! ### Written types that stand for a type -/

theorem kindOf_eq_empty_iff {name : String} : kindOf name = .empty ↔ name = "" := by
  unfold kindOf
  split_ifs with h₁ h₂ h₃ h₄ h₅ <;> simp [h₁]

theorem kindOf_eq_declared_iff {name : String} :
    kindOf name = .declared ↔ name ∉ reservedNames := by
  unfold kindOf reservedNames
  split_ifs with h₁ h₂ h₃ h₄ h₅ <;> simp_all

/-- A node stands for a type if it is well shaped and its arguments stand for types. -/
theorem exists_ofWritten_mk_iff {name : String} {args : List WrittenType} :
    (∃ t, ofWritten (.mk name args) = .ok t) ↔
      (WrittenType.mk name args).WellShaped ∧ ∃ ts, ofWrittenList args = .ok ts := by
  obtain ⟨hunit, htoken, hoption, hsequence⟩ := eq_of_kindOf name
  constructor
  · rintro ⟨t, h⟩
    -- Each kind of name fixes how many arguments there are.
    rcases ofWritten_mk_eq_ok h with ⟨rfl, rfl, -⟩ | ⟨rfl, rfl, -⟩ |
      ⟨arg, inner, rfl, rfl, harg, -⟩ | ⟨arg, inner, rfl, rfl, harg, -⟩ | ⟨hkind, ts, hts, -⟩
    · exact ⟨by simp [WrittenType.WellShaped], [], rfl⟩
    · exact ⟨by simp [WrittenType.WellShaped], [], rfl⟩
    · exact ⟨by simp [WrittenType.WellShaped], [inner], ofWrittenList_singleton harg⟩
    · exact ⟨by simp [WrittenType.WellShaped], [inner], ofWrittenList_singleton harg⟩
    · have hname := kindOf_eq_declared_iff.1 hkind
      refine ⟨?_, ts, hts⟩
      simp_all [WrittenType.WellShaped, reservedNames]
  · rintro ⟨⟨hempty, hleaf, hsingle⟩, ts, hts⟩
    unfold ofWritten
    cases hkind : kindOf name with
    | empty => exact absurd (kindOf_eq_empty_iff.1 hkind) hempty
    | unit => exact ⟨.unit, by rw [hleaf (.inl (hunit hkind))]; rfl⟩
    | token => exact ⟨.token, by rw [hleaf (.inr (htoken hkind))]; rfl⟩
    | option =>
        obtain ⟨arg, rfl⟩ := List.length_eq_one_iff.1 (hsingle (.inl (hoption hkind)))
        obtain ⟨t, ts', ht, -, -⟩ := ofWrittenList_cons_eq_ok.1 hts
        exact ⟨.option t, map_eq_ok.2 ⟨t, ht, rfl⟩⟩
    | sequence =>
        obtain ⟨arg, rfl⟩ := List.length_eq_one_iff.1 (hsingle (.inr (hsequence hkind)))
        obtain ⟨t, ts', ht, -, -⟩ := ofWrittenList_cons_eq_ok.1 hts
        exact ⟨.sequence t, map_eq_ok.2 ⟨t, ht, rfl⟩⟩
    | declared => exact ⟨.named name ts, map_eq_ok.2 ⟨ts, hts, rfl⟩⟩

mutual

/-- A written type stands for a type exactly if each of its nodes is well shaped. -/
theorem exists_ofWritten_iff : (w : WrittenType) →
    ((∃ t, ofWritten w = .ok t) ↔ ∀ node ∈ w.nodes, node.WellShaped)
  | .mk name args => by
      rw [exists_ofWritten_mk_iff, exists_ofWrittenList_iff args, WrittenType.nodes,
        List.forall_mem_cons]

theorem exists_ofWrittenList_iff : (ws : List WrittenType) →
    ((∃ ts, ofWrittenList ws = .ok ts) ↔ ∀ node ∈ WrittenType.nodesOfList ws, node.WellShaped)
  | [] => by simp [ofWrittenList, WrittenType.nodesOfList]
  | w :: ws => by
      rw [WrittenType.nodesOfList, List.forall_mem_append, ← exists_ofWritten_iff w,
        ← exists_ofWrittenList_iff ws]
      constructor
      · rintro ⟨ts, h⟩
        obtain ⟨t, ts', ht, hts, -⟩ := ofWrittenList_cons_eq_ok.1 h
        exact ⟨⟨t, ht⟩, ts', hts⟩
      · rintro ⟨⟨t, ht⟩, ts, hts⟩
        exact ⟨t :: ts, ofWrittenList_cons_eq_ok.2 ⟨t, ts, ht, hts, rfl⟩⟩

end

/-! ### Types that are given back -/

theorem ofWritten_toWritten_named_iff {name : String} {args : List ValueType} :
    ofWritten (toWritten (.named name args)) = .ok (.named name args) ↔
      name ∉ reservedNames ∧ ofWrittenList (toWrittenList args) = .ok args := by
  rw [toWritten, ← kindOf_eq_declared_iff]
  constructor
  · intro h
    rcases ofWritten_mk_eq_ok h with ⟨-, -, heq⟩ | ⟨-, -, heq⟩ | ⟨_, _, -, -, -, heq⟩ |
      ⟨_, _, -, -, -, heq⟩ | ⟨hkind, ts, hts, heq⟩
    · cases heq
    · cases heq
    · cases heq
    · cases heq
    · cases heq
      exact ⟨hkind, hts⟩
  · rintro ⟨hkind, hts⟩
    unfold ofWritten
    rw [hkind]
    exact map_eq_ok.2 ⟨args, hts, rfl⟩

theorem ofWritten_toWritten_option_iff {inner : ValueType} :
    ofWritten (toWritten (.option inner)) = .ok (.option inner) ↔
      ofWritten inner.toWritten = .ok inner := by
  have hstep : ofWritten (toWritten (.option inner)) = (ofWritten inner.toWritten).map .option := by
    simp [toWritten, ofWritten, kindOf]
  rw [hstep, map_eq_ok]
  simp

theorem ofWritten_toWritten_sequence_iff {inner : ValueType} :
    ofWritten (toWritten (.sequence inner)) = .ok (.sequence inner) ↔
      ofWritten inner.toWritten = .ok inner := by
  have hstep : ofWritten (toWritten (.sequence inner)) =
      (ofWritten inner.toWritten).map .sequence := by
    simp [toWritten, ofWritten, kindOf]
  rw [hstep, map_eq_ok]
  simp

mutual

/-- The written form of a type stands for the type exactly if no declared type in it is spelled
like something else. -/
theorem ofWritten_toWritten_iff : (t : ValueType) →
    (ofWritten t.toWritten = .ok t ↔ t.WellNamed)
  | .unit => by simp [WellNamed, nodes, Misnamed, toWritten, ofWritten, kindOf]
  | .token => by simp [WellNamed, nodes, Misnamed, toWritten, ofWritten, kindOf]
  | .option inner => by
      rw [ofWritten_toWritten_option_iff, ofWritten_toWritten_iff inner, WellNamed, WellNamed,
        nodes, List.forall_mem_cons]
      exact (and_iff_right id).symm
  | .sequence inner => by
      rw [ofWritten_toWritten_sequence_iff, ofWritten_toWritten_iff inner, WellNamed, WellNamed,
        nodes, List.forall_mem_cons]
      exact (and_iff_right id).symm
  | .named name args => by
      rw [ofWritten_toWritten_named_iff, ofWrittenList_toWrittenList_iff args, WellNamed, nodes,
        List.forall_mem_cons]
      rfl

theorem ofWrittenList_toWrittenList_iff : (ts : List ValueType) →
    (ofWrittenList (toWrittenList ts) = .ok ts ↔ ∀ node ∈ nodesOfList ts, ¬ node.Misnamed)
  | [] => by simp [toWrittenList, ofWrittenList, nodesOfList]
  | t :: ts => by
      rw [nodesOfList, List.forall_mem_append, ← ofWrittenList_toWrittenList_iff ts,
        ← WellNamed, ← ofWritten_toWritten_iff t, toWrittenList, ofWrittenList_cons_eq_ok]
      constructor
      · rintro ⟨t', ts', ht, hts, heq⟩
        cases heq
        exact ⟨ht, hts⟩
      · rintro ⟨ht, hts⟩
        exact ⟨t, ts, ht, hts, rfl⟩

end

end Grammar.ValueType

namespace Document

open ParserTables.Grammar

/-! ### Types of documents -/

theorem wellNamed_of_mem_types {g : Declarations} (h : g.Storable) {t : ValueType}
    (ht : t ∈ g.types) : t.WellNamed := by
  rw [Declarations.types, List.mem_append, List.mem_map, List.mem_flatMap] at ht
  refine (ValueType.ofWritten_toWritten_iff t).1 ?_
  rcases ht with ⟨e, he, rfl⟩ | ⟨e, he, ht⟩
  · exact h.1 e he
  · obtain ⟨harguments, hreturn⟩ := h.2.1 e he
    rcases List.mem_append.1 ht with ht | ht
    · exact harguments t ht
    · rwa [List.mem_singleton.1 ht]

/-- A written type stands for a type exactly if all of its nodes are well shaped, and then it is
what is written for this type. A type is given back by its written form exactly if no declared type
in it is spelled like something else, and this holds of every type in a document that was loaded. -/
theorem ofWritten_settles_shape :
    (∀ w, (∃ t, ValueType.ofWritten w = .ok t) ↔ ∀ node ∈ w.nodes, node.WellShaped) ∧
    (∀ w t, ValueType.ofWritten w = .ok t → t.toWritten = w) ∧
    (∀ t, ValueType.ofWritten t.toWritten = .ok t ↔ ∀ node ∈ t.nodes, ¬ node.Misnamed) ∧
    ∀ text a, load text = .ok a → ∀ t ∈ a.grammar.types, ∀ node ∈ t.nodes, ¬ node.Misnamed :=
  ⟨ValueType.exists_ofWritten_iff, ValueType.toWritten_of_ofWritten,
    ValueType.ofWritten_toWritten_iff,
    fun _ _ h _ ht => wellNamed_of_mem_types (storable_of_load h).2.1 ht⟩

/-- A sequence of the unit type beside a token, in a declared type that may be absent. -/
def nestedType : ValueType := .option (.named "Pair" [.token, .sequence .unit])

/-- A document whose only nonterminal has the nested type. -/
def nestedDocument : String :=
  "[[\x7b\"S\":[\"Option\",[[\"Pair\",[[\"Token\"],[\"Vec\",[[\"()\"]]]]]]]\x7d],[],[],[]]"

/-- The automaton of the document. -/
def nestedAutomaton : Automaton where
  grammar := ⟨⟨[("S", nestedType)], by decide⟩, .empty, []⟩
  states := []
  productions := []
  goals := .empty

/-- The nested type is read from its written form and from the document, and its declared node has
a name of its own. -/
theorem ofWritten_settles_shape_nested :
    (∃ w, ValueType.ofWritten w = .ok nestedType ∧ nestedType.toWritten = w) ∧
    load nestedDocument = .ok nestedAutomaton ∧ nestedType ∈ nestedAutomaton.grammar.types ∧
      .named "Pair" [.token, .sequence .unit] ∈ nestedType.nodes ∧
      ¬ (ValueType.named "Pair" [.token, .sequence .unit]).Misnamed := by
  have hwritten : ValueType.ofWritten nestedType.toWritten = .ok nestedType := by rfl
  have hload : load nestedDocument = .ok nestedAutomaton := by rfl
  have htype : nestedType ∈ nestedAutomaton.grammar.types := List.mem_singleton_self nestedType
  have hnode : .named "Pair" [.token, .sequence .unit] ∈ nestedType.nodes :=
    List.mem_cons_of_mem _ List.mem_cons_self
  exact ⟨⟨_, hwritten, ofWritten_settles_shape.2.1 _ _ hwritten⟩, hload, htype, hnode,
    ofWritten_settles_shape.2.2.2 _ _ hload _ htype _ hnode⟩

end Document

end ParserTables
