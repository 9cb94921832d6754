import ParserTables.Proofs.Generation.Rendering
import ParserTables.Proofs.Reduction.Nodes

/-!
# What generation says about the reducers

A document only renders if its reducers compile, so rendering certifies the invariant of documents
where compilation looks: at every node outside of the arguments that have no value. Inside of such
an argument nothing is certified.
-/

namespace ParserTables

open ParserTables.Grammar

theorem Interpreted.exists_compile_eq_ok {package : String} {a : Automaton} {u : SourceUnit}
    (h : sourceUnit package a = .ok u) {i : Nat} {p : Production}
    (hp : a.productions[i]? = some p) (hgoal : p.goal = false) :
    ∃ e, ParserTables.Reduction.compile a.grammar p = .ok e := by
  obtain ⟨r, -, hr, -⟩ := exists_reduction h hp hgoal
  obtain ⟨e, he, -⟩ := reductionOf_eq_ok hr
  exact ⟨e, he⟩

theorem Compiled.exists_compile_eq_ok {settings : CompiledSettings} {a : Automaton}
    {u : SourceUnit} (h : sourceUnit settings a = .ok u) {i : Nat} {p : Production}
    (hp : a.productions[i]? = some p) (hlive : p.nt ∈ a.liveNonterminals) :
    ∃ e, ParserTables.Reduction.compile a.grammar p = .ok e := by
  obtain ⟨arm, -, harm, -⟩ := exists_arm h hp hlive
  obtain ⟨-, -, -, e, he, -⟩ := armOf_eq_ok harm
  exact ⟨e, he⟩

/-- Where both targets render, the invariant holds at every retained node of the reducers of all
productions but the goals of nonterminals that are not live. Where, in addition, no method has a
parameter of the unit type, it holds at every node. -/
theorem rendered_reducers_fit {settings settings' : Settings} {a : Automaton}
    {source source' : String} (h : render settings .interpreted a = .ok source)
    (h' : render settings' .compiled a = .ok source') :
    ∀ p ∈ a.productions, p.goal = false ∨ p.nt ∈ a.liveNonterminals →
      (∀ node ∈ p.reducer.retainedNodes a.grammar, node.Fits a.grammar p.slotCount) ∧
      ((∀ method, .unit ∉ a.grammar.parameterTypes method) →
        ∀ node ∈ p.reducer.nodes, node.Fits a.grammar p.slotCount) := by
  intro p hp hreduced
  obtain ⟨-, u, hu, -⟩ := render_interpreted_eq_ok_iff.1 h
  obtain ⟨-, u', hu', -⟩ := render_compiled_eq_ok_iff.1 h'
  obtain ⟨i, hi⟩ := List.mem_iff_getElem?.1 hp
  have hcompiles : ∃ e, ParserTables.Reduction.compile a.grammar p = .ok e := by
    rcases hreduced with hgoal | hlive
    · exact Interpreted.exists_compile_eq_ok hu hi hgoal
    · exact Compiled.exists_compile_eq_ok hu' hi hlive
  have hretained := ParserTables.Reduction.exists_compile_eq_ok_iff.1 hcompiles
  refine ⟨hretained, fun hunitless => ?_⟩
  rwa [Reducer.retainedNodes_eq_nodes hunitless] at hretained

/-- The second parameter of the only method has no value, and the argument for it calls a method
that is not declared, for a slot that is not there. -/
def careless : Automaton where
  grammar := {
    nonterminalTypes := .single "Item" (.declared "Item")
    methods := .single "item" (.infallible [.token, .unit] (.declared "Item"))
    variableTerminals := ["NUM"] }
  states := [⟨.single (.symbol "NUM") 1, .single (.plain "Item") 0, none, none⟩]
  productions := [
    ⟨.plain "Item", [.terminal (.symbol "NUM")],
      .call "item" [.slot 0, .call "lost" [.slot 7]], false⟩]
  goals := .empty

theorem careless_renders (target : Target) : ∃ text, render {} target careless = .ok text :=
  exists_eq_ok_of_isOk (by cases target <;> decide +kernel)

/-- The reducer of `careless` fits at the call and at the slot that are retained. -/
theorem rendered_reducers_fit_careless :
    (∃ source, render {} .interpreted careless = .ok source) ∧
      (∃ source', render {} .compiled careless = .ok source') ∧
      Reducer.Fits careless.grammar 1 (.call "item" [.slot 0, .call "lost" [.slot 7]]) ∧
      Reducer.Fits careless.grammar 1 (.slot 0) := by
  obtain ⟨source, h⟩ := careless_renders .interpreted
  obtain ⟨source', h'⟩ := careless_renders .compiled
  obtain ⟨hfits, -⟩ := rendered_reducers_fit h h' _ (List.mem_singleton_self _) (.inl rfl)
  have hretained : Reducer.retainedNodes careless.grammar
      (.call "item" [.slot 0, .call "lost" [.slot 7]]) =
        [.call "item" [.slot 0, .call "lost" [.slot 7]], .slot 0] := by decide +kernel
  exact ⟨⟨source, h⟩, ⟨source', h'⟩, hfits _ (by rw [hretained]; simp),
    hfits _ (by rw [hretained]; simp)⟩

/-- Both targets render `careless`, although its reducer holds a call of a method that is not
declared and a slot that is not there. -/
theorem careless_reducer_does_not_fit :
    (∃ source, render {} .interpreted careless = .ok source) ∧
      (∃ source', render {} .compiled careless = .ok source') ∧
      ∃ p ∈ careless.productions, p.goal = false ∧
        .call "lost" [.slot 7] ∈ p.reducer.nodes ∧
        ¬ Reducer.Fits careless.grammar p.slotCount (.call "lost" [.slot 7]) ∧
        .slot 7 ∈ p.reducer.nodes ∧ ¬ Reducer.Fits careless.grammar p.slotCount (.slot 7) := by
  refine ⟨careless_renders .interpreted, careless_renders .compiled, _, List.mem_singleton_self _,
    rfl, by decide +kernel, ?_, by decide +kernel, ?_⟩
  · have hnone : careless.grammar.method? "lost" = none := by decide
    rintro ⟨s, hs, -⟩
    exact Option.some_ne_none s (hs.symm.trans hnone)
  · exact Nat.not_lt.2 (by decide)

end ParserTables
