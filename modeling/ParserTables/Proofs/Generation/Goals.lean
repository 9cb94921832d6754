import ParserTables.Proofs.Generation.Rendering

/-!
# Productions that are accepted

A goal production is accepted and never reduced. The interpreted target leaves out the goal
productions; the compiled target leaves out the productions of nonterminals that are not live. The
two agree exactly if no goal production is one of a live nonterminal.
-/

namespace ParserTables

open ParserTables.Grammar ParserTables.Naming

/-- No state goes to another one by the nonterminal of a goal production. -/
def Automaton.GoalsApart (a : Automaton) : Prop :=
  ∀ p ∈ a.productions, p.goal = true → p.nt ∉ a.liveNonterminals

theorem Automaton.goalsApart_iff {a : Automaton} :
    a.GoalsApart ↔ ∀ (i : Nat) (p : Production), a.productions[i]? = some p →
      p.nt ∈ a.liveNonterminals → p.goal = false := by
  constructor
  · intro h i p hp hlive
    exact Bool.eq_false_iff.2 fun hgoal => h p (List.mem_of_getElem? hp) hgoal hlive
  · intro h p hp hgoal hlive
    obtain ⟨i, hi⟩ := List.mem_iff_getElem?.1 hp
    exact Bool.eq_false_iff.1 (h i p hi hlive) hgoal

theorem map_filter_eq_map_iff {α β : Type} {q : α → Bool} {f : α → β} {as : List α} :
    as.map f = (as.filter q).map f ↔ ∀ a ∈ as, q a = true := by
  constructor
  · intro h
    have hlength := congrArg List.length h
    rw [List.length_map, List.length_map] at hlength
    exact List.length_filter_eq_length_iff.1 hlength.symm
  · intro h
    rw [List.filter_eq_self.2 h]

namespace Compiled

/-- The dispatcher has an arm for this number. -/
def SourceUnit.HasArm (u : SourceUnit) (i : Nat) : Prop := ∃ arm ∈ u.arms, arm.index = i

variable {settings : CompiledSettings} {a : Automaton} {u : SourceUnit}

theorem hasArm_iff (h : sourceUnit settings a = .ok u) {i : Nat} {p : Production}
    (hp : a.productions[i]? = some p) : u.HasArm i ↔ p.nt ∈ a.liveNonterminals := by
  constructor
  · rintro ⟨arm, harm, rfl⟩
    obtain ⟨q, hq, hlive, -⟩ := production_of_mem_arms h harm
    obtain rfl : q = p := Option.some.inj (hq.symm.trans hp)
    exact hlive
  · intro hlive
    obtain ⟨arm, hmem, harm, -⟩ := exists_arm h hp hlive
    exact ⟨arm, hmem, (armOf_eq_ok harm).1⟩

theorem forall_goal_not_hasArm_iff (h : sourceUnit settings a = .ok u) :
    (∀ i p, a.productions[i]? = some p → p.goal = true → ¬ u.HasArm i) ↔ a.GoalsApart := by
  constructor
  · intro hnone p hp hgoal hlive
    obtain ⟨i, hi⟩ := List.mem_iff_getElem?.1 hp
    exact hnone i p hi hgoal ((hasArm_iff h hi).2 hlive)
  · intro hapart i p hp hgoal harm
    exact hapart p (List.mem_of_getElem? hp) hgoal ((hasArm_iff h hp).1 harm)

/-- The row that the simulator has for a production. -/
def simulatorRow (p : Production) : SimulatorRow := ⟨p.slotCount, nonterminalCamel p.nt⟩

/-- The simulator has the rows of productions that are no goals, and no others, exactly if no goal
production is one of a live nonterminal. -/
theorem simulator_rows_eq_iff (h : sourceUnit settings a = .ok u) :
    u.simulator.rows =
        ((liveProductions a).filter fun p => !p.1.goal).map (fun p => simulatorRow p.1) ↔
      a.GoalsApart := by
  have hrows : u.simulator.rows = (liveProductions a).map fun p => simulatorRow p.1 := by
    rw [(sourceUnit_eq_ok h).2.1]
    rfl
  rw [hrows, map_filter_eq_map_iff, Automaton.goalsApart_iff]
  constructor
  · intro hall i p hp hlive
    simpa using hall (p, i) (mem_liveProductions.2 ⟨hp, hlive⟩)
  · rintro hall ⟨p, i⟩ hmem
    obtain ⟨hp, hlive⟩ := mem_liveProductions.1 hmem
    simpa using hall i p hp hlive

end Compiled

/-- The list of reductions has one for this number. -/
def Interpreted.SourceUnit.HasReduction (u : SourceUnit) (i : Nat) : Prop :=
  ∃ r ∈ u.reductions, r.index = i

theorem Interpreted.hasReduction_iff {package : String} {a : Automaton} {u : SourceUnit}
    (h : sourceUnit package a = .ok u) {i : Nat} {p : Production}
    (hp : a.productions[i]? = some p) : u.HasReduction i ↔ p.goal = false := by
  constructor
  · rintro ⟨r, hr, rfl⟩
    obtain ⟨q, hq, hgoal, -⟩ := production_of_mem_reductions h hr
    obtain rfl : q = p := Option.some.inj (hq.symm.trans hp)
    exact hgoal
  · intro hgoal
    obtain ⟨r, hmem, hr, -⟩ := exists_reduction h hp hgoal
    obtain ⟨e, -, rfl⟩ := reductionOf_eq_ok hr
    exact ⟨_, hmem, rfl⟩

/-- The productions with an arm in a rendered document are those of live nonterminals. No goal
production has an arm, or a row in the simulator, exactly if no goal production is one of a live
nonterminal; and exactly then both targets leave out the same productions of live nonterminals,
the goals. -/
theorem goals_left_out_iff (settings : Settings) (a : Automaton) (text : String)
    (h : render settings .compiled a = .ok text) :
    ∃ u, Compiled.sourceUnit settings.compiled a = .ok u ∧ text = Source.text u.lines ∧
      (∀ i p, a.productions[i]? = some p → (u.HasArm i ↔ p.nt ∈ a.liveNonterminals)) ∧
      ((∀ i p, a.productions[i]? = some p → p.goal = true → ¬ u.HasArm i) ↔ a.GoalsApart) ∧
      (u.simulator.rows = ((Compiled.liveProductions a).filter fun p => !p.1.goal).map
        (fun p => Compiled.simulatorRow p.1) ↔ a.GoalsApart) ∧
      ∀ v, Interpreted.sourceUnit settings.interpreted.package a = .ok v →
        (∀ i p, a.productions[i]? = some p → (v.HasReduction i ↔ p.goal = false)) ∧
        ((∀ i p, a.productions[i]? = some p → p.nt ∈ a.liveNonterminals →
          (u.HasArm i ↔ v.HasReduction i)) ↔ a.GoalsApart) := by
  obtain ⟨-, u, hu, htext⟩ := render_compiled_eq_ok_iff.1 h
  refine ⟨u, hu, htext, fun i p hp => Compiled.hasArm_iff hu hp,
    Compiled.forall_goal_not_hasArm_iff hu, Compiled.simulator_rows_eq_iff hu, fun v hv =>
    ⟨fun i p hp => Interpreted.hasReduction_iff hv hp, ?_⟩⟩
  rw [Automaton.goalsApart_iff]
  constructor
  · intro hagree i p hp hlive
    have harm := (Compiled.hasArm_iff hu hp).2 hlive
    exact (Interpreted.hasReduction_iff hv hp).1 ((hagree i p hp hlive).1 harm)
  · intro hapart i p hp hlive
    rw [Compiled.hasArm_iff hu hp, Interpreted.hasReduction_iff hv hp]
    exact iff_of_true hlive (hapart i p hp hlive)

/-- A state goes to another one by the nonterminal of the goal production. -/
def reentrant : Automaton where
  grammar := {
    nonterminalTypes := ⟨[("Item", .declared "Item"), ("Start", .declared "Item")], by decide⟩
    methods := .empty
    variableTerminals := ["NUM"] }
  states := [⟨.single (.symbol "NUM") 1,
    ⟨[(.plain "Start", 0), (.plain "Item", 0)], by decide⟩, none, none⟩]
  productions := [
    ⟨.plain "Item", [.terminal (.symbol "NUM")], .slot 0, false⟩,
    ⟨.plain "Start", [.nonterminal (.plain "Item")], .slot 0, true⟩]
  goals := .single (.plain "Start") 0

/-- The goal production of `reentrant` has an arm and a row. -/
theorem goals_left_out_iff_reentrant :
    (∃ text, render {} .compiled reentrant = .ok text) ∧
      ∃ u, Compiled.sourceUnit {} reentrant = .ok u ∧ u.HasArm 1 ∧
        u.simulator.rows ≠ ((Compiled.liveProductions reentrant).filter fun p => !p.1.goal).map
          fun p => Compiled.simulatorRow p.1 := by
  obtain ⟨text, h⟩ : ∃ text, render {} .compiled reentrant = .ok text :=
    exists_eq_ok_of_isOk (by decide +kernel)
  obtain ⟨u, hu, -, harm, -, hrows, -⟩ := goals_left_out_iff {} reentrant text h
  have hlive : Nonterminal.plain "Start" ∈ reentrant.liveNonterminals := by decide
  have hnot : ¬ reentrant.GoalsApart := fun hapart =>
    hapart _ (List.mem_cons_of_mem _ List.mem_cons_self) rfl hlive
  exact ⟨⟨text, h⟩, u, hu, (harm 1 _ rfl).2 hlive, mt hrows.1 hnot⟩

end ParserTables
