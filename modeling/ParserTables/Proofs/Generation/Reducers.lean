import ParserTables.Proofs.Generation.Rendering

/-!
# Both targets implement the reducers

Whatever the values on the stack and the methods of the handler are, the arm of a production and
the function of its reduction compute the value of its reducer, and nothing else happens to the
stack.
-/

namespace ParserTables

open ParserTables.Grammar
open ParserTables.Reduction (Datum value?)

/-- In a rendered document every production of a live nonterminal has one arm in the dispatcher,
whose statements are written down there, and every production that is no goal has one reduction,
whose function is written down. The arm replaces the values of the slots on any stack by the value
of the reducer, and binds no local in vain. The function takes one value for each slot and returns
the value of the reducer with every presence erased. -/
theorem reductions_compute_reducers (settings : Settings) (a : Automaton) :
    (∀ text, render settings .compiled a = .ok text →
      ∃ u, Compiled.sourceUnit settings.compiled a = .ok u ∧ text = Source.text u.lines ∧
        ∀ i p, a.productions[i]? = some p → p.nt ∈ a.liveNonterminals →
          ∃ arm ∈ u.arms, arm.index = i ∧ (∀ other ∈ u.arms, other.index = i → other = arm) ∧
            arm.lines <:+: u.lines ∧ arm.WrittenIn u.lines ∧ arm.BindsOnlyRead ∧
            arm.Performs a.grammar p) ∧
    (∀ text, render settings .interpreted a = .ok text →
      ∃ u, Interpreted.sourceUnit settings.interpreted.package a = .ok u ∧
        text = Source.text u.lines ∧
        ∀ i p, a.productions[i]? = some p → p.goal = false →
          ∃ r ∈ u.reductions, r.index = i ∧
            (∀ other ∈ u.reductions, other.index = i → other = r) ∧
            r.lines <:+: u.lines ∧ r.WrittenIn u.lines ∧ r.arity = p.slotCount ∧
            r.Returns a.grammar p) := by
  constructor
  · intro text h
    obtain ⟨-, u, hu, htext⟩ := render_compiled_eq_ok_iff.1 h
    refine ⟨u, hu, htext, fun i p hp hlive => ?_⟩
    obtain ⟨arm, hmem, harm, hunique⟩ := Compiled.exists_arm hu hp hlive
    obtain ⟨hi, -, -, e, he, hbody⟩ := Compiled.armOf_eq_ok harm
    exact ⟨arm, hmem, hi, hunique, Compiled.lines_infix hmem, Compiled.writtenIn_of_mem hmem,
      Compiled.bindsOnlyRead_of_armBody he hbody, Compiled.performs_of_armOf harm⟩
  · intro text h
    obtain ⟨-, u, hu, htext⟩ := render_interpreted_eq_ok_iff.1 h
    refine ⟨u, hu, htext, fun i p hp hgoal => ?_⟩
    obtain ⟨r, hmem, hr, hunique⟩ := Interpreted.exists_reduction hu hp hgoal
    obtain ⟨e, -, heq⟩ := Interpreted.reductionOf_eq_ok hr
    exact ⟨r, hmem, by rw [heq], hunique, Interpreted.lines_infix hmem,
      Interpreted.writtenIn_of_mem hmem, by rw [heq], Interpreted.returns_of_reductionOf hr⟩

/-- A grammar of pairs. Its first production is the goal, and its last one swaps the items, drops
the comma and skips an element without a slot. -/
def pairing : Automaton where
  grammar := {
    nonterminalTypes := ⟨[("Item", .declared "Item"), ("Pair", .declared "Pair"),
      ("Start", .declared "Pair")], by decide⟩
    methods := .single "pair"
      (.infallible [.declared "Item", .unit, .option (.declared "Item")] (.declared "Pair"))
    variableTerminals := ["NUM"] }
  states := [⟨.single (.symbol "NUM") 1,
    ⟨[(.plain "Item", 0), (.plain "Pair", 0)], by decide⟩, none, none⟩]
  productions := [
    ⟨.plain "Start", [.nonterminal (.plain "Pair")], .slot 0, true⟩,
    ⟨.plain "Item", [.terminal (.symbol "NUM")], .slot 0, false⟩,
    ⟨.plain "Item", [.terminal (.symbol "("), .nonterminal (.plain "Item"),
      .terminal (.symbol ")")], .slot 1, false⟩,
    ⟨.plain "Pair", [.nonterminal (.plain "Item"), .elided "no line break",
      .terminal (.symbol ","), .nonterminal (.plain "Item")],
      .call "pair" [.slot 2, .slot 1, .some (.slot 0)], false⟩]
  goals := .single (.plain "Start") 0

theorem pairing_renders (target : Target) : ∃ text, render {} target pairing = .ok text :=
  exists_eq_ok_of_isOk (by cases target <;> decide +kernel)

/-- Reducing by the last production of `pairing`, on a stack with another value below, and
applying its function. -/
theorem reductions_compute_reducers_pairing :
    (∃ u arm, Compiled.sourceUnit {} pairing = .ok u ∧ arm ∈ u.arms ∧ arm.index = 3 ∧
      arm.WrittenIn u.lines ∧ arm.run? Datum.meaning [.given 3, .given 2, .given 1, .given 0] =
        some [.result "pair" [.given 3, .present (.given 1)], .given 0]) ∧
    (∃ u r, Interpreted.sourceUnit "lrgen" pairing = .ok u ∧ r ∈ u.reductions ∧ r.index = 3 ∧
      r.WrittenIn u.lines ∧ r.applied? Datum.meaning [.given 1, .given 2, .given 3] =
        some (.result "pair" [.given 3, .given 1])) := by
  constructor
  · obtain ⟨text, h⟩ := pairing_renders .compiled
    obtain ⟨u, hu, -, hall⟩ := (reductions_compute_reducers {} pairing).1 text h
    obtain ⟨arm, hmem, hi, -, -, hwritten, -, hperf⟩ := hall 3 _ rfl (by decide +kernel)
    obtain ⟨v, hv, hrun⟩ :=
      hperf Datum Datum.meaning [.given 3, .given 2, .given 1, .given 0] (by decide)
    have hname : Naming.compiledMethod "pair" = "pair" := by decide +kernel
    have hvalue : some v = some (.result (Naming.compiledMethod "pair")
        [.given 3, .present (.given 1)]) := hv.symm.trans rfl
    rw [hname] at hvalue
    cases hvalue
    exact ⟨u, arm, hu, hmem, hi, hwritten, hrun⟩
  · obtain ⟨text, h⟩ := pairing_renders .interpreted
    obtain ⟨u, hu, -, hall⟩ := (reductions_compute_reducers {} pairing).2 text h
    obtain ⟨r, hmem, hi, -, -, hwritten, -, hret⟩ := hall 3 _ rfl rfl
    obtain ⟨v, hv, happly⟩ := hret Datum Datum
      (Datum.meaning.renamed Naming.interpretedMethod) Datum.meaning Datum.erase
      (Datum.erases_erase.renamed _) [.given 1, .given 2, .given 3] (by decide)
    have hname : Naming.interpretedMethod "pair" = "pair" := by decide +kernel
    have hvalue : some v = some (.result (Naming.interpretedMethod "pair")
        [.given 3, .present (.given 1)]) := hv.symm.trans rfl
    rw [hname] at hvalue
    cases hvalue
    exact ⟨u, r, hu, hmem, hi, hwritten, happly⟩

end ParserTables
