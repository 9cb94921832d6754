import ParserTables.Generation
import ParserTables.Proofs.Generation.Reducers
import ParserTables.Proofs.Interpreted.DefaultBuilder
import ParserTables.Proofs.OrderedMap

/-!
# The order of the declarations

Generation asks the declarations of a grammar for the signature of a method, for the type of a
nonterminal, and whether a terminal is variable. Declarations that are the same but for their order
give the same answers, so the compiled target makes the same text, or fails with the same fault.
The interpreted target also lists the methods: its default builder defines them in the order of
their declarations, and nothing else of the text depends on it.
-/

namespace ParserTables

open ParserTables.Grammar ParserTables.Source
open ParserTables.Reduction (retain retainArgs compile compileIn)

/-- Declarations that give the same answers. -/
structure Grammar.Declarations.Agree (g h : Declarations) : Prop where
  method? : ∀ tag, g.method? tag = h.method? tag
  typeOf? : ∀ nt, g.typeOf? nt = h.typeOf? nt
  isVariable : ∀ t, g.isVariable t = h.isVariable t

/-- Documents that are the same but for the order in which types, methods and variable terminals
are declared. -/
structure Automaton.SameButDeclarationOrder (a b : Automaton) : Prop where
  nonterminalTypes : a.grammar.nonterminalTypes.entries.Perm b.grammar.nonterminalTypes.entries
  methods : a.grammar.methods.entries.Perm b.grammar.methods.entries
  variableTerminals : a.grammar.variableTerminals.Perm b.grammar.variableTerminals
  states : a.states = b.states
  productions : a.productions = b.productions
  goals : a.goals = b.goals

theorem Automaton.SameButDeclarationOrder.agree {a b : Automaton}
    (h : a.SameButDeclarationOrder b) : a.grammar.Agree b.grammar where
  method? := OrderedMap.get?_eq_of_perm h.methods
  typeOf? nt := OrderedMap.get?_eq_of_perm h.nonterminalTypes nt.name
  isVariable t := by
    cases t with
    | symbol text =>
        rw [Declarations.isVariable, Declarations.isVariable, Bool.eq_iff_iff,
          List.contains_iff_mem, List.contains_iff_mem, h.variableTerminals.mem_iff]
    | endOfInput => rfl
    | errorToken => rfl

variable {g h : Declarations}

/-! ### Compiling reducers -/

mutual

theorem retain_of_agree (hgh : g.Agree h) (slots : Nat) (name : String) :
    ∀ r : Reducer, retain g slots name r = retain h slots name r
  | .slot i => by rw [retain, retain]
  | .none => by rw [retain, retain]
  | .some inner => by rw [retain, retain, retain_of_agree hgh slots name inner]
  | .call method args => by
      rw [retain, retain, hgh.method? method]
      cases h.method? method with
      | none => rfl
      | some s =>
          dsimp only
          rw [retainArgs_of_agree hgh slots name s.argumentTypes args]

theorem retainArgs_of_agree (hgh : g.Agree h) (slots : Nat) (name : String) :
    ∀ (ts : List ValueType) (rs : List Reducer),
      retainArgs g slots name ts rs = retainArgs h slots name ts rs
  | t :: ts, r :: rs => by
      rw [retainArgs, retainArgs, retain_of_agree hgh slots name r,
        retainArgs_of_agree hgh slots name ts rs]
  | [], rs => by cases rs <;> rfl
  | t :: ts, [] => rfl

end

theorem compile_of_agree (hgh : g.Agree h) (p : Production) : compile g p = compile h p :=
  retain_of_agree hgh p.slotCount p.display p.reducer

/-! ### The compiled target -/

namespace Compiled

variable {settings : CompiledSettings}

theorem elementType_of_agree (hgh : g.Agree h) (e : Element) :
    elementType g e = elementType h e := by
  induction e with
  | terminal t => rw [elementType, elementType, hgh.isVariable t]
  | nonterminal nt => rw [elementType, elementType, hgh.typeOf? nt]
  | optional inner ih => rw [elementType, elementType, ih]
  | elided text => rfl

theorem armOf_of_agree (hgh : g.Agree h) (i : Nat) (p : Production) :
    armOf settings g i p = armOf settings h i p := by
  have hpop (shape : Production.Shape) (read : List Nat) :
      popStatement settings g shape read = popStatement settings h shape read := by
    funext slot
    simp only [popStatement, elementType_of_agree hgh slot.1]
  have hbody : armBody settings g p = armBody settings h p := by
    funext value read
    simp only [armBody, hpop]
  rw [armOf, armOf, compileIn, compileIn, compile_of_agree hgh p, hbody]

theorem entryOf_of_agree (hgh : g.Agree h) (goal : Nonterminal × Nat) :
    entryOf settings g goal = entryOf settings h goal := by
  rw [entryOf, entryOf, hgh.typeOf? goal.1]

/-- The unit depends on the declarations through their answers alone. -/
theorem sourceUnit_of_agree (a : Automaton) (hgh : a.grammar.Agree h) :
    sourceUnit settings { a with grammar := h } = sourceUnit settings a := by
  have harm : (fun p : Production × Nat => armOf settings a.grammar p.2 p.1) =
      fun p => armOf settings h p.2 p.1 := funext fun p => armOf_of_agree hgh p.2 p.1
  have hentry : entryOf settings a.grammar = entryOf settings h :=
    funext (entryOf_of_agree hgh)
  rw [sourceUnit, sourceUnit, harm, hentry]
  rfl

end Compiled

/-! ### The interpreted target -/

namespace Interpreted

/-- The definitions that a default builder has for declared methods. -/
def definitions (methods : OrderedMap String Signature) : List Line :=
  methods.entries.map fun m => (builderMethod m).line

/-- The lines of a unit, given the definitions of its default builder. A class without definitions
has a statement in their place. -/
def linesAround (before after definitions : List Line) : List Line :=
  before ++ .code 0 "class DefaultBuilder:" ::
    ((if definitions.isEmpty then [.code 1 "pass"] else definitions) ++ blank :: blank :: after)

theorem reductionOf_of_agree (hgh : g.Agree h) (i : Nat) (p : Production) :
    reductionOf g i p = reductionOf h i p := by
  rw [reductionOf, reductionOf, compileIn, compileIn, compile_of_agree hgh p]

/-- Apart from the methods, the unit depends on the declarations through their answers alone. -/
theorem sourceUnit_of_agree (package : String) (a : Automaton) (hgh : a.grammar.Agree h) :
    sourceUnit package { a with grammar := h } =
      (sourceUnit package a).map fun u => { u with methods := h.methods.entries.map builderMethod }
    := by
  have hreduction : (fun p : Production × Nat => reductionOf h p.2 p.1) =
      fun p => reductionOf a.grammar p.2 p.1 :=
    funext fun p => (reductionOf_of_agree hgh p.2 p.1).symm
  have hreducible : reducible { a with grammar := h } = reducible a := rfl
  rw [sourceUnit, sourceUnit, hreduction, hreducible]
  cases (reducible a).mapM fun p => reductionOf a.grammar p.2 p.1 with
  | error f => rfl
  | ok reductions => rfl

/-- Nothing of the lines of a unit depends on its methods, except their definitions. -/
theorem exists_lines_eq_linesAround (u : SourceUnit) :
    ∃ before after, ∀ methods : OrderedMap String Signature,
      ({ u with methods := methods.entries.map builderMethod } : SourceUnit).lines =
        linesAround before after (definitions methods) := by
  refine ⟨u.headerLines ++ u.actionsLines ++ u.gotosLines ++ u.errorCodesLines ++
    u.reductionsLines, u.goalsLines ++ u.parserLines, fun methods => ?_⟩
  have hbuilder : ({ u with methods := methods.entries.map builderMethod } :
      SourceUnit).builderLines = .code 0 "class DefaultBuilder:" ::
        ((if (definitions methods).isEmpty then [.code 1 "pass"] else definitions methods) ++
          [blank, blank]) := by
    simp [SourceUnit.builderLines, definitions, Function.comp_def]
  rw [SourceUnit.lines, hbuilder, linesAround]
  simp only [List.append_assoc, List.cons_append, List.nil_append]
  rfl

end Interpreted

/-! ### Both targets -/

/-- The order in which types, methods and variable terminals are declared has no part in the text
for the compiled target. For the interpreted target both documents are refused with the same fault,
or the texts are the same but for the definitions of the default builder, each of which stands in
the place of its method among the declared methods. -/
theorem render_of_sameButDeclarationOrder (settings : Settings) {a b : Automaton}
    (h : a.SameButDeclarationOrder b) :
    render settings .compiled a = render settings .compiled b ∧
      ((∃ f, render settings .interpreted a = .error f ∧
          render settings .interpreted b = .error f) ∨
        ∃ before after,
          render settings .interpreted a = .ok (Source.text
            (Interpreted.linesAround before after (Interpreted.definitions a.grammar.methods))) ∧
          render settings .interpreted b = .ok (Source.text
            (Interpreted.linesAround before after (Interpreted.definitions b.grammar.methods))) ∧
          (Interpreted.definitions a.grammar.methods).Perm
            (Interpreted.definitions b.grammar.methods)) := by
  have hb : b = { a with grammar := b.grammar } := by
    rw [h.states, h.productions, h.goals]
  have hcheck : a.check = b.check := by
    rw [hb]
    rfl
  have hcompiled : unitLines settings b .compiled = unitLines settings a .compiled := by
    rw [unitLines, unitLines, hb, Compiled.sourceUnit_of_agree a h.agree]
  have hinterpreted := Interpreted.sourceUnit_of_agree settings.interpreted.package a h.agree
  rw [← hb] at hinterpreted
  refine ⟨by rw [render, render, hcheck, hcompiled], ?_⟩
  simp only [render, unitLines, hcheck, hinterpreted]
  cases hc : b.check with
  | error f => exact .inl ⟨f, rfl, rfl⟩
  | ok _ =>
      cases hu : Interpreted.sourceUnit settings.interpreted.package a with
      | error f => exact .inl ⟨f, rfl, rfl⟩
      | ok u =>
          obtain ⟨before, after, hlines⟩ := Interpreted.exists_lines_eq_linesAround u
          have hmethods : u.methods =
              a.grammar.methods.entries.map Interpreted.builderMethod :=
            Interpreted.sourceUnit_methods hu
          refine .inr ⟨before, after, ?_, ?_, h.methods.map _⟩
          · rw [← hlines, ← hmethods]
            rfl
          · rw [← hlines]
            rfl

/-- `pairing` with a second method and a second variable terminal. -/
def extended : Automaton :=
  { pairing with
    grammar :=
      { pairing.grammar with
        methods := ⟨[
          ("pair", .infallible [.declared "Item", .unit, .option (.declared "Item")]
            (.declared "Pair")),
          ("Item 1", ⟨[.token], .declared "Item", true⟩)], by decide⟩
        variableTerminals := ["NUM", "ID"] } }

/-- `extended` with its declarations from the last to the first. -/
def rearranged : Automaton :=
  { extended with
    grammar := {
      nonterminalTypes := ⟨extended.grammar.nonterminalTypes.entries.reverse, by decide⟩
      methods := ⟨extended.grammar.methods.entries.reverse, by decide⟩
      variableTerminals := extended.grammar.variableTerminals.reverse } }

theorem sameButDeclarationOrder_rearranged : extended.SameButDeclarationOrder rearranged where
  nonterminalTypes := (List.reverse_perm _).symm
  methods := (List.reverse_perm _).symm
  variableTerminals := (List.reverse_perm _).symm
  states := rfl
  productions := rfl
  goals := rfl

/-- Both documents render. The default builder defines `pair` first for one of them, and last for
the other. -/
theorem render_of_sameButDeclarationOrder_rearranged :
    extended.SameButDeclarationOrder rearranged ∧
      (∃ text, render {} .compiled extended = .ok text ∧
        render {} .compiled rearranged = .ok text) ∧
      ∃ before after,
        render {} .interpreted extended = .ok (Source.text (Interpreted.linesAround before after
          [.code 1 "def pair(self, x0, x1): return ('pair', x0, x1)",
            .code 1 "def Item_P1(self, x0): return ('Item 1', x0)"])) ∧
        render {} .interpreted rearranged = .ok (Source.text (Interpreted.linesAround before after
          [.code 1 "def Item_P1(self, x0): return ('Item 1', x0)",
            .code 1 "def pair(self, x0, x1): return ('pair', x0, x1)"])) := by
  have hrenders (target : Target) : ∃ text, render {} target extended = .ok text :=
    exists_eq_ok_of_isOk (by cases target <;> decide +kernel)
  obtain ⟨hcompiled, hinterpreted⟩ :=
    render_of_sameButDeclarationOrder {} sameButDeclarationOrder_rearranged
  refine ⟨sameButDeclarationOrder_rearranged, ?_, ?_⟩
  · obtain ⟨text, ht⟩ := hrenders .compiled
    exact ⟨text, ht, hcompiled ▸ ht⟩
  · obtain ⟨f, hf, -⟩ | ⟨before, after, hextended, hrearranged, -⟩ := hinterpreted
    · obtain ⟨text, ht⟩ := hrenders .interpreted
      exact absurd (ht.symm.trans hf) (by rintro ⟨⟩)
    · have hdefinitions : Interpreted.definitions extended.grammar.methods =
          [.code 1 "def pair(self, x0, x1): return ('pair', x0, x1)",
            .code 1 "def Item_P1(self, x0): return ('Item 1', x0)"] := by decide +kernel
      have hreversed : Interpreted.definitions rearranged.grammar.methods =
          [.code 1 "def Item_P1(self, x0): return ('Item 1', x0)",
            .code 1 "def pair(self, x0, x1): return ('pair', x0, x1)"] := by decide +kernel
      rw [hdefinitions] at hextended
      rw [hreversed] at hrearranged
      exact ⟨before, after, hextended, hrearranged⟩

end ParserTables
