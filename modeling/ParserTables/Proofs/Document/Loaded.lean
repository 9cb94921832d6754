import ParserTables.Proofs.Document.Storable
import ParserTables.Proofs.Grammar.ValueType
import ParserTables.Proofs.Json.Yielding

/-!
# Documents that were loaded

Whatever is read as a part of a document can be stored, and what is written for it nests no deeper
than what was read. Only the members that were left out and are written as empty maps can make it
deeper; they stand four levels deep at most.
-/

namespace ParserTables.Document

open ParserTables.Grammar ParserTables.Json
open ParserTables.Text (signedBound wordBound)

variable {α : Type}

/-- A part of a draft has the property, if it has been read. -/
def IfRead (P : α → Prop) : Option α → Prop
  | none => True
  | some a => P a

theorem IfRead.getD {P Q : α → Prop} {value : Option α} {fallback : α} (h : IfRead P value)
    (hPQ : ∀ a, P a → Q a) (hfallback : Q fallback) : Q (value.getD fallback) := by
  cases value with
  | none => exact hfallback
  | some a => exact hPQ a h

theorem require_eq_ok {name : String} {value : Option α} {a : α} :
    Field.require name value = .ok a ↔ value = some a := by
  cases value with
  | none =>
      constructor
      · rintro ⟨⟩
      · rintro ⟨⟩
  | some b =>
      constructor
      · rintro ⟨⟩
        rfl
      · rintro ⟨⟩
        rfl

theorem IfRead.require {P : α → Prop} {name : String} {value : Option α} {a : α}
    (h : IfRead P value) (ha : Field.require name value = .ok a) : P a := by
  rw [require_eq_ok.1 ha] at h
  exact h

/-! ### Lists -/

theorem within_listTree {write : α → Tree} {as : List α} {levels : Nat} :
    (listTree write as).Within (levels + 1) ↔ ∀ a ∈ as, (write a).Within levels := by
  rw [listTree, Tree.within_array_succ, List.forall_mem_map]

/-- A list of parts that are written within the levels that they were read from. -/
theorem yields_list_within {d : Decoder α} {write : α → Tree}
    (h : d.Yields fun b a => (write a).Within b) (expected : String) :
    (d.list expected).Yields fun b as => (listTree write as).Within b := by
  refine (h.list expected).mono ?_
  rintro budget as ⟨b, rfl, has⟩
  exact within_listTree.2 has

/-- The value is written within the levels, and can be stored for what `Q` says. -/
def Stored (write : α → Tree) (Q : α → Prop) (b : Nat) (a : α) : Prop :=
  (write a).Within b ∧ Q a

theorem yields_list_stored {d : Decoder α} {write : α → Tree} {Q : α → Prop}
    (h : d.Yields (Stored write Q)) (expected : String) :
    (d.list expected).Yields (Stored (listTree write) fun as => ∀ a ∈ as, Q a) := by
  refine (h.list expected).mono ?_
  rintro budget as ⟨b, rfl, has⟩
  exact ⟨within_listTree.2 fun a ha => (has a ha).1, fun a ha => (has a ha).2⟩

/-- What is left out is written in its place, and takes one level if it is empty. -/
theorem stored_getD {write : α → Tree} {Q : α → Prop} {b : Nat} {value : Option α}
    (h : IfRead (Stored write Q b) value) (fallback : α) (hwrite : (write fallback).Within 1)
    (hQ : Q fallback) : Stored write Q (max b 1) (value.getD fallback) :=
  h.getD (fun _ ha => ⟨ha.1.mono (Nat.le_max_left b 1), ha.2⟩)
    ⟨hwrite.mono (Nat.le_max_right b 1), hQ⟩

/-! ### The parts of productions -/

/-- What has been read of a written type is written within the levels. -/
def TypeDraft.Within (b : Nat) (s : TypeDraft) : Prop :=
  IfRead (fun args => (listTree writtenTypeTree args).Within b) s.args

theorem within_writtenTypeTree_nil (b : Nat) (name : String) :
    (writtenTypeTree (.mk name [])).Within (b + 1) :=
  Tree.within_object_succ.2 (List.forall_mem_singleton.2 (Tree.within_text b name))

theorem within_writtenTypeTree {b : Nat} (name : String) {args : List WrittenType}
    (h : (listTree writtenTypeTree args).Within b) :
    (writtenTypeTree (.mk name args)).Within (b + 1) := by
  cases args with
  | nil => exact within_writtenTypeTree_nil b name
  | cons arg args =>
      rw [listTree, List.map_cons, ← writtenTypeTrees_eq_map] at h
      exact Tree.within_object_succ.2 (List.forall_mem_cons.2 ⟨Tree.within_text b name,
        List.forall_mem_singleton.2 h⟩)

theorem yields_writtenType : writtenType.Yields fun b t => (writtenTypeTree t).Within b := by
  refine Decoder.yields_nested fun d hd => ?_
  refine Layout.yields_record (I := TypeDraft.Within) (fun _ => trivial) ?_ ?_
  · intro f hf
    simp only [writtenTypeLayout, List.mem_cons, List.not_mem_nil, or_false] at hf
    rcases hf with rfl | rfl
    · exact Field.keeps_of Decoder.yields_text fun _ _ _ hs _ => hs
    · exact Field.keeps_of (yields_list_within hd _) fun _ _ _ _ hargs => hargs
  · intro b s t hs ht
    obtain ⟨name, -, ht⟩ := bind_eq_ok.1 ht
    cases pure_eq_ok.1 ht
    exact hs.getD (fun _ => within_writtenTypeTree name) (within_writtenTypeTree_nil b name)

theorem yields_valueType : valueType.Yields (Stored valueTypeTree ValueType.Storable) := by
  refine yields_writtenType.restrict fun b w t hw ht => ?_
  have ht := mapError_eq_ok.1 ht
  rw [Stored, valueTypeTree, ValueType.Storable, ValueType.toWritten_of_ofWritten w t ht]
  exact ⟨hw, ht⟩

/-- A value that a variant carries stands in an object of its own. -/
theorem within_carried {b : Nat} {t : Tree} (h : t.Within b) (name : String) :
    (Tree.object [(name, t)]).Within (b + 1) :=
  Tree.within_object_succ.2 (List.forall_mem_singleton.2 h)

theorem yields_terminal : terminal.Yields fun b t => (terminalTree t).Within b := by
  refine Variant.yields_variants fun v hv => ?_
  simp only [List.mem_cons, List.not_mem_nil, or_false] at hv
  rcases hv with rfl | rfl | rfl
  · exact Decoder.yields_text.map fun b text _ => within_carried (Tree.within_text b text) _
  · exact fun b => Tree.within_text b _
  · exact fun b => Tree.within_text b _

theorem yields_parameters :
    parameters.Yields fun b args => (listTree parameterTree args).Within b := by
  refine yields_list_within ?_ _
  refine (Decoder.yields_text.pair Decoder.yields_boolean).mono ?_
  rintro budget p ⟨b, rfl, -, -⟩
  exact Tree.within_array_succ.2 (List.forall_mem_cons.2 ⟨Tree.within_text b p.1,
    List.forall_mem_singleton.2 (Tree.within_boolean b p.2)⟩)

/-- What has been read of a nonterminal is written within the levels. -/
def NonterminalDraft.Within (b : Nat) (s : NonterminalDraft) : Prop :=
  IfRead (fun args => (listTree parameterTree args).Within b) s.args

theorem within_nonterminalTree_plain (b : Nat) (name : String) :
    (nonterminalTree ⟨name, []⟩).Within (b + 1) :=
  Tree.within_object_succ.2 (List.forall_mem_singleton.2 (Tree.within_text b name))

theorem within_nonterminalTree {b : Nat} (name : String) {args : List (String × Bool)}
    (h : (listTree parameterTree args).Within b) :
    (nonterminalTree ⟨name, args⟩).Within (b + 1) := by
  cases args with
  | nil => exact within_nonterminalTree_plain b name
  | cons arg args =>
      exact Tree.within_object_succ.2 (List.forall_mem_cons.2 ⟨Tree.within_text b name,
        List.forall_mem_singleton.2 h⟩)

theorem yields_nonterminal : nonterminal.Yields fun b nt => (nonterminalTree nt).Within b := by
  refine Layout.yields_record (I := NonterminalDraft.Within) (fun _ => trivial) ?_ ?_
  · intro f hf
    simp only [nonterminalLayout, List.mem_cons, List.not_mem_nil, or_false] at hf
    rcases hf with rfl | rfl
    · exact Field.keeps_of Decoder.yields_text fun _ _ _ hs _ => hs
    · exact Field.keeps_of yields_parameters fun _ _ _ _ hargs => hargs
  · intro b s nt hs hnt
    obtain ⟨name, -, hnt⟩ := bind_eq_ok.1 hnt
    cases pure_eq_ok.1 hnt
    exact hs.getD (fun _ => within_nonterminalTree name) (within_nonterminalTree_plain b name)

theorem yields_element : element.Yields fun b e => (elementTree e).Within b := by
  refine Decoder.yields_nested fun d hd => Variant.yields_variants fun v hv => ?_
  simp only [List.mem_cons, List.not_mem_nil, or_false] at hv
  rcases hv with rfl | rfl | rfl | rfl
  · exact yields_terminal.map fun _ _ ht => within_carried ht _
  · exact yields_nonterminal.map fun _ _ hnt => within_carried hnt _
  · exact hd.map fun _ _ hinner => within_carried hinner _
  · exact Decoder.yields_text.map fun b text _ => within_carried (Tree.within_text b text) _

/-- What has been read of a method call is written within the levels. -/
def CallDraft.Within (b : Nat) (s : CallDraft) : Prop :=
  IfRead (fun args => (listTree reducerTree args).Within b) s.args

theorem yields_reducer : reducer.Yields fun b r => (reducerTree r).Within b := by
  refine Decoder.yields_nested fun d hd => Variant.yields_variants fun v hv => ?_
  simp only [List.mem_cons, List.not_mem_nil, or_false] at hv
  rcases hv with rfl | rfl | rfl | rfl
  · exact Decoder.yields_natural.map fun b _ hi => within_carried (Tree.within_natural b hi) _
  · exact fun b => Tree.within_text b _
  · exact hd.map fun _ _ hinner => within_carried hinner _
  · refine Layout.yields_record (I := CallDraft.Within) (fun _ => trivial) ?_ ?_
    · intro f hf
      simp only [callLayout, List.mem_cons, List.not_mem_nil, or_false] at hf
      rcases hf with rfl | rfl
      · exact Field.keeps_of Decoder.yields_text fun _ _ _ hs _ => hs
      · exact Field.keeps_of (yields_list_within hd _) fun _ _ _ _ hargs => hargs
    · intro b s r hs hr
      obtain ⟨method, -, hr⟩ := bind_eq_ok.1 hr
      obtain ⟨args, hargs, hr⟩ := bind_eq_ok.1 hr
      cases pure_eq_ok.1 hr
      have hwithin := hs.require hargs
      rw [listTree, ← reducerTrees_eq_map] at hwithin
      exact within_carried (Tree.within_object_succ.2 (List.forall_mem_cons.2
        ⟨Tree.within_text b method, List.forall_mem_singleton.2 hwithin⟩)) _

/-- What has been read of a production is written within the levels. -/
def ProductionDraft.Within (b : Nat) (s : ProductionDraft) : Prop :=
  IfRead (fun nt => (nonterminalTree nt).Within b) s.nt ∧
    IfRead (fun rhs => (listTree elementTree rhs).Within b) s.rhs ∧
    IfRead (fun reducer => (reducerTree reducer).Within b) s.reducer

theorem yields_production : production.Yields fun b p => (productionTree p).Within b := by
  refine Layout.yields_record (I := ProductionDraft.Within)
    (fun _ => ⟨trivial, trivial, trivial⟩) ?_ ?_
  · intro f hf
    simp only [productionLayout, List.mem_cons, List.not_mem_nil, or_false] at hf
    rcases hf with rfl | rfl | rfl | rfl
    · exact Field.keeps_of yields_nonterminal fun _ _ _ hs hnt => ⟨hnt, hs.2⟩
    · exact Field.keeps_of (yields_list_within yields_element _)
        fun _ _ _ hs hrhs => ⟨hs.1, hrhs, hs.2.2⟩
    · exact Field.keeps_of yields_reducer fun _ _ _ hs hr => ⟨hs.1, hs.2.1, hr⟩
    · exact Field.keeps_of Decoder.yields_boolean fun _ _ _ hs _ => hs
  · intro b s p hs hp
    obtain ⟨nt, hnt, hp⟩ := bind_eq_ok.1 hp
    obtain ⟨rhs, hrhs, hp⟩ := bind_eq_ok.1 hp
    obtain ⟨reducer, hreducer, hp⟩ := bind_eq_ok.1 hp
    cases pure_eq_ok.1 hp
    exact Tree.within_object_succ.2 (List.forall_mem_cons.2 ⟨hs.1.require hnt,
      List.forall_mem_cons.2 ⟨hs.2.1.require hrhs, List.forall_mem_cons.2
        ⟨hs.2.2.require hreducer, List.forall_mem_singleton.2 (Tree.within_boolean b _)⟩⟩⟩)

/-! ### Declarations -/

/-- What has been read of a signature is written within the levels, and its types can be
stored. -/
def SignatureDraft.Within (b : Nat) (s : SignatureDraft) : Prop :=
  IfRead (Stored (listTree valueTypeTree) (fun ts => ∀ t ∈ ts, t.Storable) b) s.argumentTypes ∧
    IfRead (Stored valueTypeTree ValueType.Storable b) s.returnType

theorem yields_signature : signature.Yields (Stored signatureTree Signature.Storable) := by
  refine Layout.yields_record (I := SignatureDraft.Within) (fun _ => ⟨trivial, trivial⟩) ?_ ?_
  · intro f hf
    simp only [signatureLayout, List.mem_cons, List.not_mem_nil, or_false] at hf
    rcases hf with rfl | rfl | rfl
    · exact Field.keeps_of (yields_list_stored yields_valueType _)
        fun _ _ _ hs hts => ⟨hts, hs.2⟩
    · exact Field.keeps_of yields_valueType fun _ _ _ hs ht => ⟨hs.1, ht⟩
    · exact Field.keeps_of Decoder.yields_boolean fun _ _ _ hs _ => hs
  · intro b d s hd hs
    obtain ⟨argumentTypes, harguments, hs⟩ := bind_eq_ok.1 hs
    obtain ⟨returnType, hreturn, hs⟩ := bind_eq_ok.1 hs
    cases pure_eq_ok.1 hs
    obtain ⟨harguments, hstorable⟩ := hd.1.require harguments
    obtain ⟨hreturn, hstorable'⟩ := hd.2.require hreturn
    refine ⟨Tree.within_object_succ.2 ?_, hstorable, hstorable'⟩
    exact List.forall_mem_cons.2 ⟨harguments, List.forall_mem_cons.2 ⟨hreturn,
      List.forall_mem_singleton.2 (Tree.within_boolean b _)⟩⟩

theorem yields_stringMap {ν : Type} {d : Decoder ν} {write : ν → Tree} {Q : ν → Prop}
    (h : d.Yields (Stored write Q)) :
    (stringMap d).Yields (Stored (stringMapTree write) fun m => ∀ e ∈ m.entries, Q e.2) := by
  refine (h.table (I := fun b m => ∀ e ∈ m.entries, Stored write Q b e.2) ?_ ?_).mono ?_
  · exact fun _ _ he => absurd he List.not_mem_nil
  · intro b m k v hm hv e he
    rcases OrderedMap.eq_or_mem_of_mem_insertEntry he with rfl | he
    · exact hv
    · exact hm e he
  · rintro budget m ⟨b, rfl, hm⟩
    refine ⟨Tree.within_object_succ.2 (List.forall_mem_map.2 fun e he => ?_), fun e he => ?_⟩
    · exact (hm e he).1
    · exact (hm e he).2

theorem yields_stringSet : stringSet.Yields (Stored (listTree .text) List.Nodup) := by
  refine (Decoder.yields_text.list "a set").map ?_
  rintro budget names ⟨b, rfl, -⟩
  exact ⟨within_listTree.2 fun s _ => Tree.within_text b s, nodup_firstAppearances [] names⟩

/-- What has been read of the declarations is written within the levels and can be stored. -/
def DeclarationsDraft.Within (b : Nat) (s : DeclarationsDraft) : Prop :=
  IfRead (Stored (stringMapTree valueTypeTree) (fun m => ∀ e ∈ m.entries, e.2.Storable) b)
      s.nonterminalTypes ∧
    IfRead (Stored (stringMapTree signatureTree) (fun m => ∀ e ∈ m.entries, e.2.Storable) b)
      s.methods ∧
    IfRead (Stored (listTree .text) List.Nodup b) s.variableTerminals

/-- The maps and the set that are left out stand two levels deep. -/
theorem yields_declarations : declarations.Yields fun b =>
    Stored declarationsTree Declarations.Storable (max b 2) := by
  refine Layout.yields_record (I := DeclarationsDraft.Within)
    (fun _ => ⟨trivial, trivial, trivial⟩) ?_ ?_
  · intro f hf
    simp only [declarationsLayout, List.mem_cons, List.not_mem_nil, or_false] at hf
    rcases hf with rfl | rfl | rfl
    · exact Field.keeps_of (yields_stringMap yields_valueType)
        fun _ _ _ hs hm => ⟨hm, hs.2⟩
    · exact Field.keeps_of (yields_stringMap yields_signature)
        fun _ _ _ hs hm => ⟨hs.1, hm, hs.2.2⟩
    · exact Field.keeps_of yields_stringSet fun _ _ _ hs hm => ⟨hs.1, hs.2.1, hm⟩
  · intro b s g hs hg
    cases pure_eq_ok.1 hg
    have hempty : (Tree.object []).Within 1 := ⟨trivial, Nat.le_refl 1⟩
    obtain ⟨htypes, htypes'⟩ :=
      stored_getD hs.1 .empty hempty fun _ he => absurd he List.not_mem_nil
    obtain ⟨hmethods, hmethods'⟩ :=
      stored_getD hs.2.1 .empty hempty fun _ he => absurd he List.not_mem_nil
    obtain ⟨hnames, hnames'⟩ := stored_getD hs.2.2 [] ⟨trivial, Nat.le_refl 1⟩ List.nodup_nil
    have hlevels : max (b + 1) 2 = max b 1 + 1 := by omega
    rw [hlevels]
    refine ⟨Tree.within_object_succ.2 ?_, htypes', hmethods', hnames'⟩
    exact List.forall_mem_cons.2 ⟨htypes, List.forall_mem_cons.2 ⟨hmethods,
      List.forall_mem_singleton.2 hnames⟩⟩

/-! ### States -/

theorem yields_row {κ ν : Type} [DecidableEq κ] {display : κ → String} {key : Decoder κ}
    {value : Decoder ν} {writeKey : κ → Tree} {write : ν → Tree} {Q : ν → Prop}
    (hkey : key.Yields fun b k => (writeKey k).Within b)
    (hvalue : value.Yields (Stored write Q)) :
    (row display key value).Yields
      (Stored (rowTree writeKey write) fun m => ∀ e ∈ m.entries, Q e.2) := by
  refine ((hkey.pair hvalue).list _).restrict ?_
  rintro budget pairs m ⟨b, rfl, hpairs⟩ hm
  have hentries := OrderedMap.entries_of_ofPairs? (mapError_eq_ok.1 hm)
  rw [Stored, rowTree, hentries]
  refine ⟨within_listTree.2 fun e he => ?_, fun e he => ?_⟩
  · obtain ⟨c, rfl, hk, hv, -⟩ := hpairs e he
    exact Tree.within_array_succ.2 (List.forall_mem_cons.2 ⟨hk, List.forall_mem_singleton.2 hv⟩)
  · obtain ⟨c, rfl, -, -, hQ⟩ := hpairs e he
    exact hQ

/-- The value of an action row. -/
def actionRowTree : OrderedMap Terminal Int → Tree :=
  rowTree terminalTree fun n => .number (.integer n)

/-- The value of a goto row. -/
def gotoRowTree : OrderedMap Nonterminal Nat → Tree := rowTree nonterminalTree .natural

theorem yields_actionRow : actionRow.Yields
    (Stored actionRowTree fun m => ∀ e ∈ m.entries, e.2 < Int.ofNat signedBound) :=
  yields_row yields_terminal <|
    Decoder.yields_integer.mono fun b _ hn => ⟨Tree.within_integer b hn.1, hn.2⟩

theorem yields_gotoRow :
    gotoRow.Yields (Stored gotoRowTree fun m => ∀ e ∈ m.entries, e.2 < wordBound) :=
  yields_row yields_nonterminal <|
    Decoder.yields_natural.mono fun b _ hn => ⟨Tree.within_natural b hn, hn⟩

/-- What has been read of a state is written within the levels and can be stored. -/
def StateDraft.Within (b : Nat) (s : StateDraft) : Prop :=
  IfRead (Stored actionRowTree (fun m => ∀ e ∈ m.entries, e.2 < Int.ofNat signedBound) b)
      s.actions ∧
    IfRead (Stored gotoRowTree (fun m => ∀ e ∈ m.entries, e.2 < wordBound) b) s.gotos

theorem within_nullableTextTree (b : Nat) (text : Option String) :
    (nullableTextTree text).Within b := by
  cases text with
  | none => exact Tree.within_null b
  | some s => exact Tree.within_text b s

/-- The rows that are left out stand two levels deep. -/
theorem yields_state :
    state.Yields fun b => Stored stateTree State.Storable (max b 2) := by
  refine Layout.yields_record (I := StateDraft.Within) (fun _ => ⟨trivial, trivial⟩) ?_ ?_
  · intro f hf
    simp only [stateLayout, List.mem_cons, List.not_mem_nil, or_false] at hf
    rcases hf with rfl | rfl | rfl | rfl
    · exact Field.keeps_of yields_actionRow fun _ _ _ hs hm => ⟨hm, hs.2⟩
    · exact Field.keeps_of yields_gotoRow fun _ _ _ hs hm => ⟨hs.1, hm⟩
    · exact Field.keeps_of Decoder.yields_nullableText fun _ _ _ hs _ => hs
    · exact Field.keeps_of Decoder.yields_nullableText fun _ _ _ hs _ => hs
  · intro b d s hd hs
    cases pure_eq_ok.1 hs
    have hempty : (Tree.array []).Within 1 := ⟨trivial, Nat.le_refl 1⟩
    obtain ⟨hactions, hactions'⟩ :=
      stored_getD hd.1 .empty hempty fun _ he => absurd he List.not_mem_nil
    obtain ⟨hgotos, -⟩ := stored_getD hd.2 .empty hempty fun _ he => absurd he List.not_mem_nil
    have hlevels : max (b + 1) 2 = max b 1 + 1 := by omega
    rw [hlevels]
    refine ⟨Tree.within_object_succ.2 ?_, hactions'⟩
    exact List.forall_mem_cons.2 ⟨hactions, List.forall_mem_cons.2 ⟨hgotos,
      List.forall_mem_cons.2 ⟨within_nullableTextTree _ _,
        List.forall_mem_singleton.2 (within_nullableTextTree _ _)⟩⟩⟩

/-! ### Documents -/

/-- What has been read of an automaton is written within the levels and can be stored. -/
def AutomatonDraft.Within (b : Nat) (s : AutomatonDraft) : Prop :=
  IfRead (Stored declarationsTree Declarations.Storable (max b 2)) s.grammar ∧
    IfRead (Stored (listTree stateTree) (fun states => ∀ s ∈ states, s.Storable) (max b 3))
      s.states ∧
    IfRead (fun productions => (listTree productionTree productions).Within b) s.productions ∧
    IfRead (Stored gotoRowTree (fun m => ∀ e ∈ m.entries, e.2 < wordBound) b) s.goals

theorem yields_states : (Decoder.list state "a sequence").Yields fun b =>
    Stored (listTree stateTree) (fun states => ∀ s ∈ states, s.Storable) (max b 3) := by
  refine (yields_state.list _).mono ?_
  rintro budget states ⟨b, rfl, hstates⟩
  have hlevels : max (b + 1) 3 = max b 2 + 1 := by omega
  rw [hlevels]
  exact ⟨within_listTree.2 fun s hs => (hstates s hs).1, fun s hs => (hstates s hs).2⟩

/-- An automaton that is read can be stored. It is written within the levels that it was read
from, or within four. -/
theorem yields_automaton :
    automaton.Yields fun b => Stored automatonTree Automaton.Storable (max b 4) := by
  refine Layout.yields_record (I := AutomatonDraft.Within)
    (fun _ => ⟨trivial, trivial, trivial, trivial⟩) ?_ ?_
  · intro f hf
    simp only [automatonLayout, List.mem_cons, List.not_mem_nil, or_false] at hf
    rcases hf with rfl | rfl | rfl | rfl
    · exact Field.keeps_of yields_declarations fun _ _ _ hs hg => ⟨hg, hs.2⟩
    · exact Field.keeps_of yields_states fun _ _ _ hs hx => ⟨hs.1, hx, hs.2.2⟩
    · exact Field.keeps_of (yields_list_within yields_production _)
        fun _ _ _ hs hp => ⟨hs.1, hs.2.1, hp, hs.2.2.2⟩
    · exact Field.keeps_of yields_gotoRow fun _ _ _ hs hm => ⟨hs.1, hs.2.1, hs.2.2.1, hm⟩
  · intro b d a hd ha
    obtain ⟨grammar, hgrammar, ha⟩ := bind_eq_ok.1 ha
    obtain ⟨states, hstates, ha⟩ := bind_eq_ok.1 ha
    obtain ⟨productions, hproductions, ha⟩ := bind_eq_ok.1 ha
    obtain ⟨goals, hgoals, ha⟩ := bind_eq_ok.1 ha
    cases pure_eq_ok.1 ha
    obtain ⟨hgrammar, hgrammar'⟩ := hd.1.require hgrammar
    obtain ⟨hstates, hstates'⟩ := hd.2.1.require hstates
    have hproductions := hd.2.2.1.require hproductions
    obtain ⟨hgoals, -⟩ := hd.2.2.2.require hgoals
    -- An empty row stands in a state, in the list of the states, in the document.
    have hlevels : max (b + 1) 4 = max b 3 + 1 := by omega
    rw [hlevels]
    refine ⟨Tree.within_object_succ.2 ?_, hgrammar', hstates'⟩
    exact List.forall_mem_cons.2 ⟨hgrammar.mono (by omega), List.forall_mem_cons.2 ⟨hstates,
      List.forall_mem_cons.2 ⟨hproductions.mono (by omega),
        List.forall_mem_singleton.2 (hgoals.mono (by omega))⟩⟩⟩

end ParserTables.Document
