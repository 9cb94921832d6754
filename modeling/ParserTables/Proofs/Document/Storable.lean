import ParserTables.Document.Loading
import ParserTables.Proofs.Json.Rereading

/-!
# Documents that can be stored

Not every automaton has a text. A written type has to stand for the type that it was written for,
an action code has to fit into 63 bits, and the names of variable terminals must not repeat. The
value of an automaton with these properties is read as this automaton, with all its rows and maps
in order.
-/

namespace ParserTables

open ParserTables.Json
open ParserTables.Text (signedBound)

namespace Grammar

/-- The type is the one that its written form stands for. -/
def ValueType.Storable (t : ValueType) : Prop := ValueType.ofWritten t.toWritten = .ok t

/-- The types of the signature can be stored. -/
def Signature.Storable (s : Signature) : Prop :=
  (∀ t ∈ s.argumentTypes, t.Storable) ∧ s.returnType.Storable

/-- The types of the declarations can be stored, and no terminal is declared twice. -/
def Declarations.Storable (g : Declarations) : Prop :=
  (∀ e ∈ g.nonterminalTypes.entries, e.2.Storable) ∧
    (∀ e ∈ g.methods.entries, e.2.Storable) ∧ g.variableTerminals.Nodup

end Grammar

/-- The action codes of the state are integers of 63 bits. -/
def State.Storable (s : State) : Prop :=
  ∀ e ∈ s.actions.entries, e.2 < Int.ofNat signedBound

/-- The declarations and the states of the automaton can be stored. -/
def Automaton.Storable (a : Automaton) : Prop :=
  a.grammar.Storable ∧ ∀ s ∈ a.states, s.Storable

namespace Document

open ParserTables.Grammar

/-! ### The parts of productions -/

theorem writtenTypeTrees_eq_map (ts : List WrittenType) :
    writtenTypeTrees ts = ts.map writtenTypeTree := by
  induction ts with
  | nil => rfl
  | cons t ts ih => rw [writtenTypeTrees, List.map_cons, ih]

theorem reads_writtenType (t : WrittenType) : writtenType.Reads (writtenTypeTree t) t := by
  refine Decoder.reads_nested (fun d t hd => ?_) t
  obtain ⟨name, args⟩ := t
  have hname := Decoder.reads_text name
  cases args with
  | nil => exact Layout.reads_record (.field rfl rfl hname (.nil _)) rfl
  | cons arg args =>
      have hargs : (Decoder.list d "a sequence").Reads
          (.array ((arg :: args).map writtenTypeTree)) (arg :: args) := by
        refine Decoder.reads_map_list (fun t ht => hd t ?_) _
        have hitem := Tree.depth_lt_of_mem_items (List.mem_map_of_mem (f := writtenTypeTree) ht)
        rw [List.map_cons, ← writtenTypeTrees_eq_map] at hitem
        exact hitem.trans (Tree.depth_lt_of_mem_members (k := "args") (by simp))
      rw [List.map_cons, ← writtenTypeTrees_eq_map] at hargs
      exact Layout.reads_record (.field rfl rfl hname (.field rfl rfl hargs (.nil _))) rfl

theorem reads_valueType {t : ValueType} (h : t.Storable) :
    valueType.Reads (valueTypeTree t) t := by
  refine (reads_writtenType t.toWritten).restrict ?_
  rw [h]
  rfl

theorem reads_terminal (t : Terminal) : terminal.Reads (terminalTree t) t := by
  cases t with
  | symbol text => exact Variant.reads_carrying rfl ((Decoder.reads_text text).map Terminal.symbol)
  | endOfInput => exact Variant.reads_bare rfl
  | errorToken => exact Variant.reads_bare rfl

theorem reads_nonterminal (nt : Nonterminal) : nonterminal.Reads (nonterminalTree nt) nt := by
  obtain ⟨name, args⟩ := nt
  have hname := Decoder.reads_text name
  cases args with
  | nil => exact Layout.reads_record (.field rfl rfl hname (.nil _)) rfl
  | cons arg args =>
      have hargs : parameters.Reads (listTree parameterTree (arg :: args)) (arg :: args) :=
        Decoder.reads_map_list (fun p _ =>
          Decoder.reads_pair (Decoder.reads_text p.1) (Decoder.reads_boolean p.2)) _
      exact Layout.reads_record (.field rfl rfl hname (.field rfl rfl hargs (.nil _))) rfl

theorem reads_element (e : Element) : element.Reads (elementTree e) e := by
  refine Decoder.reads_nested (fun d e hd => ?_) e
  cases e with
  | terminal t => exact Variant.reads_carrying rfl ((reads_terminal t).map Element.terminal)
  | nonterminal nt =>
      exact Variant.reads_carrying rfl ((reads_nonterminal nt).map Element.nonterminal)
  | optional inner =>
      have hinner := hd inner (Tree.depth_lt_of_mem_members (k := "optional") (by simp))
      exact Variant.reads_carrying rfl (hinner.map Element.optional)
  | elided text => exact Variant.reads_carrying rfl ((Decoder.reads_text text).map Element.elided)

theorem reducerTrees_eq_map (rs : List Reducer) : reducerTrees rs = rs.map reducerTree := by
  induction rs with
  | nil => rfl
  | cons r rs ih => rw [reducerTrees, List.map_cons, ih]

theorem reads_reducer (r : Reducer) : reducer.Reads (reducerTree r) r := by
  refine Decoder.reads_nested (fun d r hd => ?_) r
  cases r with
  | slot i => exact Variant.reads_carrying rfl ((Decoder.reads_natural i).map Reducer.slot)
  | none => exact Variant.reads_bare rfl
  | some inner =>
      have hinner := hd inner (Tree.depth_lt_of_mem_members (k := "some") (by simp))
      exact Variant.reads_carrying rfl (hinner.map Reducer.some)
  | call method args =>
      have hmethod := Decoder.reads_text method
      have hargs : (Decoder.list d "a sequence").Reads (.array (args.map reducerTree)) args := by
        refine Decoder.reads_map_list (fun r hr => hd r ?_) _
        have hitem := Tree.depth_lt_of_mem_items (List.mem_map_of_mem (f := reducerTree) hr)
        rw [← reducerTrees_eq_map] at hitem
        have hcall : (Tree.array (reducerTrees args)).depth <
            (Tree.object [("method", .text method), ("args", .array (reducerTrees args))]).depth :=
          Tree.depth_lt_of_mem_members (k := "args") (by simp)
        exact (hitem.trans hcall).trans (Tree.depth_lt_of_mem_members (k := "call") (by simp))
      rw [← reducerTrees_eq_map] at hargs
      exact Variant.reads_carrying rfl
        (Layout.reads_record (.field rfl rfl hmethod (.field rfl rfl hargs (.nil _))) rfl)

theorem reads_production (p : Production) : production.Reads (productionTree p) p :=
  Layout.reads_record
    (.field rfl rfl (reads_nonterminal p.nt) <|
      .field rfl rfl (Decoder.reads_map_list (fun e _ => reads_element e) _) <|
      .field rfl rfl (reads_reducer p.reducer) <|
      .field rfl rfl (Decoder.reads_boolean p.goal) (.nil _)) rfl

/-! ### Declarations -/

theorem reads_signature {s : Signature} (h : s.Storable) :
    signature.Reads (signatureTree s) s :=
  Layout.reads_record
    (.field rfl rfl (Decoder.reads_map_list (fun t ht => reads_valueType (h.1 t ht)) _) <|
      .field rfl rfl (reads_valueType h.2) <|
      .field rfl rfl (Decoder.reads_boolean s.fallible) (.nil _)) rfl

theorem reads_stringMap {ν : Type} {d : Decoder ν} {write : ν → Tree}
    {m : OrderedMap String ν} (h : ∀ e ∈ m.entries, d.Reads (write e.2) e.2) :
    (stringMap d).Reads (stringMapTree write m) m := by
  have htable := Decoder.reads_table h OrderedMap.insert .empty
  rwa [OrderedMap.foldl_insert_entries] at htable

theorem reads_stringSet {names : List String} (h : names.Nodup) :
    stringSet.Reads (listTree .text names) names := by
  have hlist := (Decoder.reads_map_list (fun s (_ : s ∈ names) => Decoder.reads_text s)
    "a set").map (firstAppearances [])
  rwa [firstAppearances_of_nodup h fun _ _ => List.not_mem_nil] at hlist

theorem reads_declarations {g : Declarations} (h : g.Storable) :
    declarations.Reads (declarationsTree g) g :=
  Layout.reads_record
    (.field rfl rfl (reads_stringMap fun e he => reads_valueType (h.1 e he)) <|
      .field rfl rfl (reads_stringMap fun e he => reads_signature (h.2.1 e he)) <|
      .field rfl rfl (reads_stringSet h.2.2) (.nil _)) rfl

/-! ### States -/

theorem reads_row {κ ν : Type} [DecidableEq κ] {display : κ → String} {key : Decoder κ}
    {value : Decoder ν} {writeKey : κ → Tree} {writeValue : ν → Tree} {m : OrderedMap κ ν}
    (hkey : ∀ k, key.Reads (writeKey k) k)
    (hvalue : ∀ e ∈ m.entries, value.Reads (writeValue e.2) e.2) :
    (row display key value).Reads (rowTree writeKey writeValue m) m := by
  refine Decoder.Reads.restrict (Decoder.reads_map_list (fun e he =>
    Decoder.reads_pair (hkey e.1) (hvalue e he)) _) ?_
  rw [rowOf, OrderedMap.ofPairs?_entries]
  rfl

theorem reads_gotoRow (m : OrderedMap Nonterminal Nat) :
    gotoRow.Reads (rowTree nonterminalTree .natural m) m :=
  reads_row reads_nonterminal fun e _ => Decoder.reads_natural e.2

theorem reads_nullableText (text : Option String) :
    Decoder.nullableText.Reads (nullableTextTree text) text := by
  cases text with
  | none => exact fun _ _ _ => rfl
  | some s => exact fun _ _ _ => rfl

theorem reads_state {s : State} (h : s.Storable) : state.Reads (stateTree s) s :=
  Layout.reads_record
    (.field rfl rfl (reads_row reads_terminal fun e he => Decoder.reads_integer (h e he)) <|
      .field rfl rfl (reads_gotoRow s.gotos) <|
      .field rfl rfl (reads_nullableText s.errorCode) <|
      .field rfl rfl (reads_nullableText s.trace) (.nil _)) rfl

/-- The value of an automaton that can be stored is read as this automaton. -/
theorem reads_automaton {a : Automaton} (h : a.Storable) :
    automaton.Reads (automatonTree a) a :=
  Layout.reads_record
    (.field rfl rfl (reads_declarations h.1) <|
      .field rfl rfl (Decoder.reads_map_list (fun s hs => reads_state (h.2 s hs)) _) <|
      .field rfl rfl (Decoder.reads_map_list (fun p _ => reads_production p) _) <|
      .field rfl rfl (reads_gotoRow a.goals) (.nil _)) rfl

end Document

end ParserTables
