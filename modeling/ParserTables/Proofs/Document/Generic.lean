import ParserTables.Proofs.Document.Reload
import ParserTables.Proofs.Json.Accepting
import ParserTables.Proofs.Text.ByteOrder

/-!
# Documents as generic values

A generic value keeps the members of an object sorted by their keys. A document that was loaded,
saved, and read as a generic value is the same document, except that the two maps which are
written as objects are sorted by then. Everything else is written as a list, and keeps its order.
-/

namespace ParserTables

open ParserTables.Json

/-- The map `n` has the entries of `m`, in the order of the bytes of their keys. -/
structure OrderedMap.SortedFrom {ν : Type} (m n : OrderedMap String ν) : Prop where
  perm : n.entries.Perm m.entries
  ascending : n.entries.Pairwise fun e f => Text.bytes e.1 < Text.bytes f.1

/-- There is only one such map. -/
theorem OrderedMap.SortedFrom.unique {ν : Type} {m n n' : OrderedMap String ν}
    (h : m.SortedFrom n) (h' : m.SortedFrom n') : n = n' := by
  refine ext_entries ((h.perm.trans h'.perm.symm).eq_of_pairwise ?_ h.ascending h'.ascending)
  intro e f _ _ hef hfe
  exact absurd hfe (List.lt_asymm hef)

namespace Document

open ParserTables.Grammar

/-! ### The parts of productions -/

theorem accepts_writtenType (t : WrittenType) : writtenType.Accepts (writtenTypeTree t) t := by
  refine Decoder.accepts_nested (fun d t hd => ?_) t
  obtain ⟨name, args⟩ := t
  have hname := Decoder.accepts_text name
  cases args with
  | nil => exact Layout.accepts_record (by rfl) (.field rfl rfl hname (.nil _)) rfl
  | cons arg args =>
      have hargs : (Decoder.list d "a sequence").Accepts
          (.array ((arg :: args).map writtenTypeTree)) (arg :: args) := by
        refine Decoder.accepts_map_list (fun t ht => hd t ?_) _
        have hitem := Tree.depth_sorted_lt_of_mem_items
          (List.mem_map_of_mem (f := writtenTypeTree) ht)
        rw [List.map_cons, ← writtenTypeTrees_eq_map] at hitem
        exact hitem.trans (Tree.depth_sorted_lt_of_mem_members (k := "args") (by simp) (by simp))
      rw [List.map_cons, ← writtenTypeTrees_eq_map] at hargs
      exact Layout.accepts_record (by rfl)
        (.field rfl rfl hargs (.field rfl rfl hname (.nil _))) rfl

theorem accepts_valueType {t : ValueType} (h : t.Storable) :
    valueType.Accepts (valueTypeTree t) t := by
  refine (accepts_writtenType t.toWritten).restrict ?_
  rw [h]
  rfl

theorem accepts_terminal (t : Terminal) : terminal.Accepts (terminalTree t) t := by
  cases t with
  | symbol text =>
      exact Variant.accepts_carrying rfl ((Decoder.accepts_text text).map Terminal.symbol)
  | endOfInput => exact Variant.accepts_bare rfl
  | errorToken => exact Variant.accepts_bare rfl

theorem accepts_nonterminal (nt : Nonterminal) :
    nonterminal.Accepts (nonterminalTree nt) nt := by
  obtain ⟨name, args⟩ := nt
  have hname := Decoder.accepts_text name
  cases args with
  | nil => exact Layout.accepts_record (by rfl) (.field rfl rfl hname (.nil _)) rfl
  | cons arg args =>
      have hargs : parameters.Accepts (listTree parameterTree (arg :: args)) (arg :: args) :=
        Decoder.accepts_map_list (fun p _ =>
          Decoder.accepts_pair (Decoder.accepts_text p.1) (Decoder.accepts_boolean p.2)) _
      exact Layout.accepts_record (by rfl)
        (.field rfl rfl hargs (.field rfl rfl hname (.nil _))) rfl

theorem accepts_element (e : Element) : element.Accepts (elementTree e) e := by
  refine Decoder.accepts_nested (fun d e hd => ?_) e
  cases e with
  | terminal t => exact Variant.accepts_carrying rfl ((accepts_terminal t).map Element.terminal)
  | nonterminal nt =>
      exact Variant.accepts_carrying rfl ((accepts_nonterminal nt).map Element.nonterminal)
  | optional inner =>
      have hinner := hd inner
        (Tree.depth_sorted_lt_of_mem_members (k := "optional") (by simp) (by simp))
      exact Variant.accepts_carrying rfl (hinner.map Element.optional)
  | elided text =>
      exact Variant.accepts_carrying rfl ((Decoder.accepts_text text).map Element.elided)

theorem accepts_reducer (r : Reducer) : reducer.Accepts (reducerTree r) r := by
  refine Decoder.accepts_nested (fun d r hd => ?_) r
  cases r with
  | slot i => exact Variant.accepts_carrying rfl ((Decoder.accepts_natural i).map Reducer.slot)
  | none => exact Variant.accepts_bare rfl
  | some inner =>
      have hinner := hd inner
        (Tree.depth_sorted_lt_of_mem_members (k := "some") (by simp) (by simp))
      exact Variant.accepts_carrying rfl (hinner.map Reducer.some)
  | call method args =>
      have hmethod := Decoder.accepts_text method
      have hargs : (Decoder.list d "a sequence").Accepts (.array (args.map reducerTree)) args := by
        refine Decoder.accepts_map_list (fun r hr => hd r ?_) _
        have hitem := Tree.depth_sorted_lt_of_mem_items
          (List.mem_map_of_mem (f := reducerTree) hr)
        rw [← reducerTrees_eq_map] at hitem
        have hcall : (Tree.array (reducerTrees args)).sorted.depth <
            (Tree.object
              [("method", .text method), ("args", .array (reducerTrees args))]).sorted.depth :=
          Tree.depth_sorted_lt_of_mem_members (k := "args") (by simp) (by simp)
        exact (hitem.trans hcall).trans
          (Tree.depth_sorted_lt_of_mem_members (k := "call") (by simp) (by simp))
      rw [← reducerTrees_eq_map] at hargs
      exact Variant.accepts_carrying rfl
        (Layout.accepts_record (by rfl)
          (.field rfl rfl hargs (.field rfl rfl hmethod (.nil _))) rfl)

theorem accepts_production (p : Production) : production.Accepts (productionTree p) p :=
  Layout.accepts_record (by rfl)
    (.field rfl rfl (Decoder.accepts_boolean p.goal) <|
      .field rfl rfl (accepts_nonterminal p.nt) <|
      .field rfl rfl (accepts_reducer p.reducer) <|
      .field rfl rfl (Decoder.accepts_map_list (fun e _ => accepts_element e) _) (.nil _)) rfl

/-! ### Declarations -/

theorem accepts_signature {s : Signature} (h : s.Storable) :
    signature.Accepts (signatureTree s) s :=
  Layout.accepts_record (by rfl)
    (.field rfl rfl (Decoder.accepts_map_list (fun t ht => accepts_valueType (h.1 t ht)) _) <|
      .field rfl rfl (Decoder.accepts_boolean s.fallible) <|
      .field rfl rfl (accepts_valueType h.2) (.nil _)) rfl

/-- A map that is written as an object comes back sorted. -/
theorem exists_accepts_stringMap {ν : Type} {d : Decoder ν} {write : ν → Tree}
    {m : OrderedMap String ν} (h : ∀ e ∈ m.entries, d.Accepts (write e.2) e.2) :
    ∃ n, m.SortedFrom n ∧ (stringMap d).Accepts (stringMapTree write m) n := by
  obtain ⟨es, hperm, hasc, htable⟩ :=
    Decoder.exists_accepts_table h m.distinct OrderedMap.insert .empty
  have hdistinct : (es.map Prod.fst).Nodup := (hperm.map Prod.fst).nodup_iff.2 m.distinct
  refine ⟨⟨es, hdistinct⟩, ⟨hperm, hasc.imp Text.bytes_lt_of_lt⟩, ?_⟩
  rwa [OrderedMap.foldl_insert_entries ⟨es, hdistinct⟩] at htable

theorem accepts_stringSet {names : List String} (h : names.Nodup) :
    stringSet.Accepts (listTree .text names) names := by
  have hlist := (Decoder.accepts_map_list (fun s (_ : s ∈ names) => Decoder.accepts_text s)
    "a set").map (firstAppearances [])
  rwa [firstAppearances_of_nodup h fun _ _ => List.not_mem_nil] at hlist

/-- The declarations with their two maps sorted. -/
structure DeclarationsSorted (g g' : Declarations) : Prop where
  nonterminalTypes : g.nonterminalTypes.SortedFrom g'.nonterminalTypes
  methods : g.methods.SortedFrom g'.methods
  variableTerminals : g'.variableTerminals = g.variableTerminals

theorem exists_accepts_declarations {g : Declarations} (h : g.Storable) :
    ∃ g', DeclarationsSorted g g' ∧ declarations.Accepts (declarationsTree g) g' := by
  obtain ⟨types, htypes, haccepts⟩ :=
    exists_accepts_stringMap fun e he => accepts_valueType (h.1 e he)
  obtain ⟨methods, hmethods, haccepts'⟩ :=
    exists_accepts_stringMap fun e he => accepts_signature (h.2.1 e he)
  refine ⟨⟨types, methods, g.variableTerminals⟩, ⟨htypes, hmethods, rfl⟩, ?_⟩
  exact Layout.accepts_record (by rfl)
    (.field rfl rfl haccepts' <|
      .field rfl rfl haccepts <|
      .field rfl rfl (accepts_stringSet h.2.2) (.nil _)) rfl

/-! ### States -/

theorem accepts_row {κ ν : Type} [DecidableEq κ] {display : κ → String} {key : Decoder κ}
    {value : Decoder ν} {writeKey : κ → Tree} {writeValue : ν → Tree} {m : OrderedMap κ ν}
    (hkey : ∀ k, key.Accepts (writeKey k) k)
    (hvalue : ∀ e ∈ m.entries, value.Accepts (writeValue e.2) e.2) :
    (row display key value).Accepts (rowTree writeKey writeValue m) m := by
  refine Decoder.Accepts.restrict (Decoder.accepts_map_list (fun e he =>
    Decoder.accepts_pair (hkey e.1) (hvalue e he)) _) ?_
  rw [rowOf, OrderedMap.ofPairs?_entries]
  rfl

theorem accepts_gotoRow (m : OrderedMap Nonterminal Nat) :
    gotoRow.Accepts (rowTree nonterminalTree .natural m) m :=
  accepts_row accepts_nonterminal fun e _ => Decoder.accepts_natural e.2

theorem accepts_nullableText (text : Option String) :
    Decoder.nullableText.Accepts (nullableTextTree text) text := by
  cases text <;> rfl

theorem accepts_state {s : State} (h : s.Storable) : state.Accepts (stateTree s) s :=
  Layout.accepts_record (by rfl)
    (.field rfl rfl (accepts_row accepts_terminal fun e he => Decoder.accepts_integer (h e he)) <|
      .field rfl rfl (accepts_nullableText s.errorCode) <|
      .field rfl rfl (accepts_gotoRow s.gotos) <|
      .field rfl rfl (accepts_nullableText s.trace) (.nil _)) rfl

/-- From the generic value of an automaton that can be stored, the automaton is taken, with its
declarations sorted. -/
theorem exists_accepts_automaton {a : Automaton} (h : a.Storable) :
    ∃ g, DeclarationsSorted a.grammar g ∧
      automaton.Accepts (automatonTree a) { a with grammar := g } := by
  obtain ⟨g, hg, haccepts⟩ := exists_accepts_declarations h.1
  refine ⟨g, hg, ?_⟩
  exact Layout.accepts_record (by rfl)
    (.field rfl rfl haccepts <|
      .field rfl rfl (accepts_gotoRow a.goals) <|
      .field rfl rfl (Decoder.accepts_map_list (fun p _ => accepts_production p) _) <|
      .field rfl rfl (Decoder.accepts_map_list (fun s hs => accepts_state (h.2 s hs)) _)
        (.nil _)) rfl

/-- Whatever text a document was loaded from, the text that is saved for it is read as a generic
value, and the document that is decoded from this value differs in nothing but the order of its
two maps with string keys, which are sorted by the bytes of the keys. -/
theorem ofTree_readTree_save_of_load (text : String) (a : Automaton) (h : load text = .ok a) :
    ∃ t b, readTree (save a) = .ok t ∧ ofTree t = .ok b ∧
      b.states = a.states ∧ b.productions = a.productions ∧ b.goals = a.goals ∧
      b.grammar.variableTerminals = a.grammar.variableTerminals ∧
      a.grammar.nonterminalTypes.SortedFrom b.grammar.nonterminalTypes ∧
      a.grammar.methods.SortedFrom b.grammar.methods := by
  obtain ⟨hlevels, hstorable⟩ := storable_of_load h
  obtain ⟨g, hg, haccepts⟩ := exists_accepts_automaton hstorable
  refine ⟨(automatonTree a).sorted, { a with grammar := g }, readTree_write hlevels, ?_,
    rfl, rfl, rfl, hg.variableTerminals, hg.nonterminalTypes, hg.methods⟩
  exact mapError_eq_ok.2 haccepts

/-- Declarations out of order, with a key whose bytes are greater than those of every letter
from `a` to `z`, and a row that is out of order as well. -/
def disordered : Automaton where
  grammar :=
    { nonterminalTypes := ⟨[("b", .token), ("a", .declared "T")], by decide⟩
      methods := ⟨[("é", .infallible [] .unit), ("z", .infallible [] .token)], by decide⟩
      variableTerminals := [] }
  states := [⟨.empty, ⟨[(.plain "b", 1), (.plain "a", 0)], by decide⟩, none, none⟩]
  productions := []
  goals := .empty

/-- A text for `disordered` in which records are arrays. -/
def disorderedText : String :=
  "[[\x7b\"b\":[\"Token\"],\"a\":[\"T\"]\x7d,\x7b\"é\":[[],[\"()\"]],\"z\":[[],[\"Token\"]]\x7d]," ++
    "[[[],[[[\"b\"],1],[[\"a\"],0]]]],[],[]]"

/-- Its maps with string keys are sorted, and its row is not. -/
theorem ofTree_readTree_save_of_load_disordered :
    load disorderedText = .ok disordered ∧ ∃ t b, readTree (save disordered) = .ok t ∧
      ofTree t = .ok b ∧ b.states = disordered.states ∧
      b.grammar.nonterminalTypes.keys = ["a", "b"] ∧ b.grammar.methods.keys = ["z", "é"] := by
  have hload : load disorderedText = .ok disordered := by decide +kernel
  obtain ⟨t, b, ht, hb, hstates, -, -, -, htypes, hmethods⟩ :=
    ofTree_readTree_save_of_load disorderedText disordered hload
  have htypes' : disordered.grammar.nonterminalTypes.SortedFrom
      ⟨[("a", .declared "T"), ("b", .token)], by decide⟩ :=
    ⟨by decide, by decide⟩
  have hmethods' : disordered.grammar.methods.SortedFrom
      ⟨[("z", .infallible [] .token), ("é", .infallible [] .unit)], by decide⟩ :=
    ⟨by decide, by decide⟩
  refine ⟨hload, t, b, ht, hb, hstates, ?_, ?_⟩
  · rw [htypes.unique htypes']
    rfl
  · rw [hmethods.unique hmethods']
    rfl

end Document

end ParserTables
