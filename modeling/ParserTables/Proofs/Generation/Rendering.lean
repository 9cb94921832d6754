import Mathlib.Data.List.Infix
import ParserTables.Generation
import ParserTables.Proofs.Compiled.Execution
import ParserTables.Proofs.Interpreted.Application

/-!
# Documents that render

What a rendered text consists of. A document renders if it passes the checks and every part of
its unit can be made; the text is then the printing of the unit. The lemmas `sourceUnit_eq_ok`
say what stands in a unit, and the lemmas `lines_infix` where its parts are printed.
-/

namespace ParserTables

open ParserTables.Grammar

theorem render_eq_ok_iff {settings : Settings} {target : Target} {a : Automaton}
    {text : String} :
    render settings target a = .ok text ↔
      a.check = .ok () ∧ ∃ lines, unitLines settings a target = .ok lines ∧
        text = Source.text lines := by
  rw [render, bind_eq_ok]
  constructor
  · rintro ⟨⟨⟩, hc, h⟩
    obtain ⟨lines, hl, h⟩ := bind_eq_ok.1 h
    exact ⟨hc, lines, hl, (pure_eq_ok.1 h).symm⟩
  · rintro ⟨hc, lines, hl, rfl⟩
    exact ⟨(), hc, bind_eq_ok.2 ⟨lines, hl, rfl⟩⟩

theorem render_compiled_eq_ok_iff {settings : Settings} {a : Automaton} {text : String} :
    render settings .compiled a = .ok text ↔
      a.check = .ok () ∧ ∃ u, Compiled.sourceUnit settings.compiled a = .ok u ∧
        text = Source.text u.lines := by
  rw [render_eq_ok_iff]
  simp only [unitLines, map_eq_ok]
  constructor
  · rintro ⟨hc, -, ⟨u, hu, rfl⟩, ht⟩
    exact ⟨hc, u, hu, ht⟩
  · rintro ⟨hc, u, hu, ht⟩
    exact ⟨hc, _, ⟨u, hu, rfl⟩, ht⟩

theorem render_interpreted_eq_ok_iff {settings : Settings} {a : Automaton} {text : String} :
    render settings .interpreted a = .ok text ↔
      a.check = .ok () ∧ ∃ u, Interpreted.sourceUnit settings.interpreted.package a = .ok u ∧
        text = Source.text u.lines := by
  rw [render_eq_ok_iff]
  simp only [unitLines, map_eq_ok]
  constructor
  · rintro ⟨hc, -, ⟨u, hu, rfl⟩, ht⟩
    exact ⟨hc, u, hu, ht⟩
  · rintro ⟨hc, u, hu, ht⟩
    exact ⟨hc, _, ⟨u, hu, rfl⟩, ht⟩

theorem infix_flatMap_of_mem {α β : Type} {f : α → List β} {a : α} {as : List α}
    (h : a ∈ as) : f a <:+: as.flatMap f := by
  obtain ⟨before, after, rfl⟩ := List.append_of_mem h
  exact ⟨before.flatMap f, after.flatMap f, by simp⟩

namespace Compiled

variable {settings : CompiledSettings} {a : Automaton} {u : SourceUnit}

theorem mem_liveProductions {p : Production} {i : Nat} :
    (p, i) ∈ liveProductions a ↔ a.productions[i]? = some p ∧ p.nt ∈ a.liveNonterminals := by
  simp [liveProductions, List.mem_filter, List.mk_mem_zipIdx_iff_getElem?]

/-- What stands in a unit that depends on productions and goals: an arm and a row of the simulator
for each production of a live nonterminal, and an entry for each goal. -/
theorem sourceUnit_eq_ok (h : sourceUnit settings a = .ok u) :
    (liveProductions a).mapM (fun p => armOf settings a.grammar p.2 p.1) = .ok u.arms ∧
      u.simulator = ⟨(liveProductions a).length,
        (liveProductions a).map fun p => ⟨p.1.slotCount, Naming.nonterminalCamel p.1.nt⟩⟩ ∧
      a.goals.entries.mapM (entryOf settings a.grammar) = .ok u.entries := by
  obtain ⟨arms, harms, h⟩ := bind_eq_ok.1 h
  obtain ⟨entries, hentries, h⟩ := bind_eq_ok.1 h
  cases pure_eq_ok.1 h
  exact ⟨harms, rfl, hentries⟩

/-- What stands in a unit that depends on states: the columns and the rows of the tables, with
their lengths and widths, and the error codes. -/
theorem sourceUnit_tables (h : sourceUnit settings a = .ok u) :
    u.terminals = a.terminals.map (fun t => (Naming.terminalName t, t.display)) ∧
      u.actions = ⟨a.states.length * a.terminals.length,
        a.states.map fun s => (s.shownTrace, a.terminals.map s.actions.get?)⟩ ∧
      u.errorVariants = (firstAppearances [] a.errorCodes).map Naming.camel ∧
      u.stateErrors = ⟨a.states.length,
        a.states.map fun s => (s.shownTrace, s.errorCode.map Naming.camel)⟩ ∧
      u.nonterminals = a.liveNonterminals.map Naming.nonterminalCamel ∧
      u.gotos = ⟨a.states.length * a.liveNonterminals.length,
        a.states.map fun s => a.liveNonterminals.map fun nt => (s.gotos.get? nt).getD 0⟩ ∧
      u.stateCount = a.states.length ∧ u.actionWidth = a.terminals.length ∧
      u.gotoWidth = a.liveNonterminals.length := by
  obtain ⟨arms, -, h⟩ := bind_eq_ok.1 h
  obtain ⟨entries, -, h⟩ := bind_eq_ok.1 h
  cases pure_eq_ok.1 h
  exact ⟨rfl, rfl, rfl, rfl, rfl, rfl, rfl, rfl, rfl⟩

/-- What stands in a unit that depends on the settings alone. -/
theorem sourceUnit_settings (h : sourceUnit settings a = .ok u) :
    u.uses = settings.uses ∧ u.handler = settings.handler ∧
      u.runtimeParse = settings.runtimeParse := by
  obtain ⟨arms, -, h⟩ := bind_eq_ok.1 h
  obtain ⟨entries, -, h⟩ := bind_eq_ok.1 h
  cases pure_eq_ok.1 h
  exact ⟨rfl, rfl, rfl⟩

/-- The constant and the function of an entry are named for its goal. -/
theorem entryOf_eq_ok {g : Declarations} {goal : Nonterminal × Nat} {e : Entry}
    (h : entryOf settings g goal = .ok e) :
    ∃ type, e = ⟨Naming.startStateName goal.1, goal.2, "parse_" ++ Naming.nonterminalSnake goal.1,
      type⟩ := by
  unfold entryOf at h
  split at h
  · cases h
  · obtain ⟨type, -, h⟩ := bind_eq_ok.1 h
    exact ⟨type, (pure_eq_ok.1 h).symm⟩

theorem exists_goal_of_mem_entries (h : sourceUnit settings a = .ok u) {e : Entry}
    (he : e ∈ u.entries) : ∃ goal, e.constant = Naming.startStateName goal := by
  obtain ⟨goal, -, hentry⟩ := exists_of_mem_mapM (sourceUnit_eq_ok h).2.2 he
  obtain ⟨type, rfl⟩ := entryOf_eq_ok hentry
  exact ⟨goal.1, rfl⟩

/-- Every arm is the arm of a production of a live nonterminal. -/
theorem production_of_mem_arms (h : sourceUnit settings a = .ok u) {arm : Arm}
    (harm : arm ∈ u.arms) :
    ∃ p, a.productions[arm.index]? = some p ∧ p.nt ∈ a.liveNonterminals ∧
      armOf settings a.grammar arm.index p = .ok arm := by
  obtain ⟨⟨p, i⟩, hp, ha⟩ := exists_of_mem_mapM (sourceUnit_eq_ok h).1 harm
  obtain ⟨rfl, -⟩ := armOf_eq_ok ha
  exact ⟨p, (mem_liveProductions.1 hp).1, (mem_liveProductions.1 hp).2, ha⟩

/-- Every production of a live nonterminal has an arm, and only one has its number. -/
theorem exists_arm (h : sourceUnit settings a = .ok u) {i : Nat} {p : Production}
    (hp : a.productions[i]? = some p) (hlive : p.nt ∈ a.liveNonterminals) :
    ∃ arm ∈ u.arms, armOf settings a.grammar i p = .ok arm ∧
      ∀ other ∈ u.arms, other.index = i → other = arm := by
  obtain ⟨k, hk⟩ := List.mem_iff_getElem?.1 (mem_liveProductions.2 ⟨hp, hlive⟩)
  obtain ⟨arm, hget, harm⟩ := getElem?_of_mapM' (sourceUnit_eq_ok h).1 hk
  refine ⟨arm, List.mem_of_getElem? hget, harm, ?_⟩
  rintro other hother rfl
  obtain ⟨q, hq, -, hother⟩ := production_of_mem_arms h hother
  obtain rfl : p = q := Option.some.inj (hp.symm.trans hq)
  exact Except.ok.inj (hother.symm.trans harm)

/-- An arm of a unit is printed in one piece. -/
theorem lines_infix {arm : Arm} (h : arm ∈ u.arms) : arm.lines <:+: u.lines := by
  have hd : u.arms.flatMap Arm.lines <:+: u.dispatcherLines := ⟨_, _, rfl⟩
  have hu : u.dispatcherLines <:+: u.lines := by
    refine ⟨u.headerLines ++ u.terminalsLines ++ tokenLines ++ u.actionsLines ++
      u.errorCodesLines ++ u.nonterminalsLines ++ u.gotosLines,
      u.simulatorLines ++ u.tablesLines ++ u.entriesLines, ?_⟩
    simp only [SourceUnit.lines, List.append_assoc]
  exact (infix_flatMap_of_mem h).trans (hd.trans hu)

/-- The statements of an arm stand among these lines, one below the other, between the head with
the number of the arm and its result. -/
def Arm.WrittenIn (arm : Arm) (ls : List Source.Line) : Prop :=
  [.code 2 (toString arm.index ++ " => \x7b"), .comment 3 "//" arm.comment] ++
      arm.body.map (fun st => .code 3 st.written) ++
      [.code 3 ("Ok(NonterminalId::" ++ arm.result ++ ")"), .code 2 "\x7d"] <:+: ls

theorem writtenIn_of_mem {arm : Arm} (h : arm ∈ u.arms) : arm.WrittenIn u.lines :=
  lines_infix h

theorem Arm.WrittenIn.mem {arm : Arm} {ls : List Source.Line} (h : arm.WrittenIn ls)
    {st : Statement} (hst : st ∈ arm.body) : .code 3 st.written ∈ ls :=
  h.subset (List.mem_append_left _ (List.mem_append_right _
    (List.mem_map_of_mem (f := fun st : Statement => Source.Line.code 3 st.written) hst)))

end Compiled

namespace Interpreted

variable {package : String} {a : Automaton} {u : SourceUnit}

theorem mem_reducible {p : Production} {i : Nat} :
    (p, i) ∈ reducible a ↔ a.productions[i]? = some p ∧ p.goal = false := by
  simp [reducible, List.mem_filter, List.mk_mem_zipIdx_iff_getElem?]

/-- A unit has a reduction for each production that is no goal. -/
theorem sourceUnit_eq_ok (h : sourceUnit package a = .ok u) :
    (reducible a).mapM (fun p => reductionOf a.grammar p.2 p.1) = .ok u.reductions := by
  obtain ⟨reductions, hr, h⟩ := bind_eq_ok.1 h
  cases pure_eq_ok.1 h
  exact hr

/-- The tables of a unit hold the rows, the error codes and the goals of the document. -/
theorem sourceUnit_tables (h : sourceUnit package a = .ok u) :
    u.package = package ∧
      u.importsErrorToken = (a.states.any fun s => s.actions.contains .errorToken) ∧
      u.actions = a.states.map (fun s =>
        (s.shownTrace, s.actions.entries.map fun e => (Key.ofTerminal e.1, e.2))) ∧
      u.gotos = a.states.map (fun s => s.gotos.entries.map fun e => (e.1.pretty, e.2)) ∧
      u.errorCodes = a.states.map State.errorCode ∧
      u.goals = a.goals.entries.map fun g => (g.1.name, g.2) := by
  obtain ⟨reductions, -, h⟩ := bind_eq_ok.1 h
  cases pure_eq_ok.1 h
  exact ⟨rfl, rfl, rfl, rfl, rfl, rfl⟩

/-- Every reduction is the reduction of a production that is no goal. -/
theorem production_of_mem_reductions (h : sourceUnit package a = .ok u) {r : Reduction}
    (hr : r ∈ u.reductions) :
    ∃ p, a.productions[r.index]? = some p ∧ p.goal = false ∧
      reductionOf a.grammar r.index p = .ok r := by
  obtain ⟨⟨p, i⟩, hp, ha⟩ := exists_of_mem_mapM (sourceUnit_eq_ok h) hr
  obtain ⟨e, -, rfl⟩ := reductionOf_eq_ok ha
  exact ⟨p, (mem_reducible.1 hp).1, (mem_reducible.1 hp).2, ha⟩

/-- Every production that is no goal has a reduction, and only one has its number. -/
theorem exists_reduction (h : sourceUnit package a = .ok u) {i : Nat} {p : Production}
    (hp : a.productions[i]? = some p) (hgoal : p.goal = false) :
    ∃ r ∈ u.reductions, reductionOf a.grammar i p = .ok r ∧
      ∀ other ∈ u.reductions, other.index = i → other = r := by
  obtain ⟨k, hk⟩ := List.mem_iff_getElem?.1 (mem_reducible.2 ⟨hp, hgoal⟩)
  obtain ⟨r, hget, hr⟩ := getElem?_of_mapM' (sourceUnit_eq_ok h) hk
  refine ⟨r, List.mem_of_getElem? hget, hr, ?_⟩
  rintro other hother rfl
  obtain ⟨q, hq, -, hother⟩ := production_of_mem_reductions h hother
  obtain rfl : p = q := Option.some.inj (hp.symm.trans hq)
  exact Except.ok.inj (hother.symm.trans hr)

/-- A reduction of a unit is printed in one piece. -/
theorem lines_infix {r : Reduction} (h : r ∈ u.reductions) : r.lines <:+: u.lines := by
  have hd : u.reductions.flatMap Reduction.lines <:+: u.reductionsLines := ⟨_, _, rfl⟩
  have hu : u.reductionsLines <:+: u.lines := by
    refine ⟨u.headerLines ++ u.actionsLines ++ u.gotosLines ++ u.errorCodesLines,
      u.builderLines ++ u.goalsLines ++ u.parserLines, ?_⟩
    simp only [SourceUnit.lines, List.append_assoc]
  exact (infix_flatMap_of_mem h).trans (hd.trans hu)

/-- The entry of a reduction stands on one of these lines: its nonterminal, the number of its slots
and its function. -/
def Reduction.WrittenIn (r : Reduction) (ls : List Source.Line) : Prop :=
  .code 1 ("(" ++ literal r.nonterminal ++ ", " ++ toString r.arity ++ ", lambda " ++
    String.intercalate ", " ("builder" :: paramNames r.arity) ++ ": " ++ r.value.written ++
    "),") ∈ ls

theorem writtenIn_of_mem {r : Reduction} (h : r ∈ u.reductions) : r.WrittenIn u.lines := by
  have hlines := lines_infix h
  exact hlines.subset (List.mem_cons_of_mem _ List.mem_cons_self)

end Interpreted

end ParserTables
