import ParserTables.Proofs.Generation.Reducers

/-!
# The numbers of productions

An action code refers to a production by its number in the document. An arm of the dispatcher
carries this number, and the comment above a reduction shows it. The rows of the simulator and
the list of reductions carry no numbers: they leave productions out, and what is left moves up.
So a table can be indexed by the numbers of the document exactly if what it leaves out stands
behind everything that it keeps.
-/

namespace ParserTables

open ParserTables.Grammar ParserTables.Naming
open ParserTables.Reduction (Meaning)

/-! ### Lists that leave elements out -/

section Leaving

variable {α : Type} {p : α → Bool}

theorem map_fst_filter_zipIdx (as : List α) (k : Nat) :
    ((as.zipIdx k).filter fun a => p a.1).map Prod.fst = as.filter p := by
  induction as generalizing k with
  | nil => rfl
  | cons a as ih =>
      rw [List.zipIdx_cons, List.filter_cons, List.filter_cons]
      split
      · rw [List.map_cons, ih]
      · exact ih (k + 1)

theorem length_filter_zipIdx (as : List α) :
    (as.zipIdx.filter fun a => p a.1).length = as.countP p := by
  rw [← List.length_map (f := Prod.fst), map_fst_filter_zipIdx, List.countP_eq_length_filter]

/-- If what is left out stands behind what is kept, everything that is kept stays in its
place. -/
theorem getElem?_filter_zipIdx {as : List α}
    (h : as.Pairwise fun a b => p b = true → p a = true) (k : Nat) {i : Nat} {a : α}
    (ha : as[i]? = some a) (hk : p a = true) :
    ((as.zipIdx k).filter fun a => p a.1)[i]? = some (a, k + i) := by
  induction as generalizing k i with
  | nil => cases ha
  | cons b as ih =>
      obtain ⟨hb, has⟩ := List.pairwise_cons.1 h
      have hkb : p b = true := by
        rcases List.mem_cons.1 (List.mem_of_getElem? ha) with rfl | hmem
        · exact hk
        · exact hb a hmem hk
      rw [List.zipIdx_cons, List.filter_cons, if_pos hkb]
      cases i with
      | zero =>
          obtain rfl : b = a := Option.some.inj ha
          rfl
      | succ i =>
          rw [List.getElem?_cons_succ, ih has (k + 1) ha, Nat.add_right_comm, Nat.add_assoc]

/-- What is left out stands behind what is kept exactly if the numbers of the elements that are
kept are places of the list that is left. -/
theorem pairwise_iff_forall_lt_countP (as : List α) :
    as.Pairwise (fun a b => p b = true → p a = true) ↔
      ∀ i a, as[i]? = some a → p a = true → i < as.countP p := by
  constructor
  · intro h i a ha hk
    rw [← length_filter_zipIdx]
    exact (List.getElem?_eq_some_iff.1 (getElem?_filter_zipIdx h 0 ha hk)).1
  · intro h
    induction as using List.reverseRecOn with
    | nil => exact List.Pairwise.nil
    | append_singleton as b ih =>
        rw [List.pairwise_append]
        by_cases hb : p b = true
        · -- The number of the last element is only a place if nothing at all was left out.
          have hlast := h as.length b (by simp) hb
          rw [List.countP_append, List.countP_singleton, if_pos hb] at hlast
          have hall : ∀ a ∈ as, p a = true :=
            List.countP_eq_length.1 (Nat.le_antisymm List.countP_le_length (by omega))
          refine ⟨List.pairwise_of_forall_mem_list fun a ha _ _ _ => hall a ha,
            List.pairwise_singleton _ _, fun a ha _ _ _ => hall a ha⟩
        · refine ⟨ih fun i a ha hk => ?_, List.pairwise_singleton _ _, fun a _ c hc hkc => ?_⟩
          · have hi := (List.getElem?_eq_some_iff.1 ha).1
            have hlt := h i a (by rw [List.getElem?_append_left hi, ha]) hk
            rwa [List.countP_append, List.countP_singleton, if_neg hb] at hlt
          · obtain rfl := List.mem_singleton.1 hc
            exact absurd hkc hb

end Leaving

/-! ### The rows of the simulator -/

namespace Compiled

/-- The arm takes `pops` values from any stack that has them, and leaves one value in their
place. -/
def Arm.Replaces (pops : Nat) (arm : Arm) : Prop :=
  ∀ (ν : Type) (m : Meaning ν) (stack : List ν), pops ≤ stack.length →
    ∃ v, arm.run? m stack = some (v :: stack.drop pops)

theorem Arm.Performs.replaces {g : Declarations} {p : Production} {arm : Arm}
    (h : arm.Performs g p) : arm.Replaces p.slotCount := by
  intro ν m stack hs
  obtain ⟨v, -, hrun⟩ := h ν m stack hs
  exact ⟨v, hrun⟩

/-- The row of the simulator at the number of an arm says what the arm does: how many values it
takes, and the nonterminal that it reduces to. -/
def SourceUnit.Simulates (u : SourceUnit) (a : Automaton) (arm : Arm) : Prop :=
  ∃ p, a.productions[arm.index]? = some p ∧
    u.simulator.rows[arm.index]? = some ⟨p.slotCount, arm.result⟩ ∧ arm.Replaces p.slotCount

variable {settings : CompiledSettings} {a : Automaton} {u : SourceUnit}

/-- The rows of the simulator stand in the order of the arms. -/
theorem getElem?_simulator_rows (h : sourceUnit settings a = .ok u) {k : Nat} {arm : Arm}
    (harm : u.arms[k]? = some arm) :
    ∃ p, a.productions[arm.index]? = some p ∧ arm.result = nonterminalCamel p.nt ∧
      arm.Replaces p.slotCount ∧ u.simulator.rows[k]? = some ⟨p.slotCount, arm.result⟩ := by
  obtain ⟨harms, hsim, -⟩ := sourceUnit_eq_ok h
  obtain ⟨⟨p, i⟩, hp, ha⟩ := getElem?_of_mapM harms harm
  obtain ⟨rfl, -, hresult, -⟩ := armOf_eq_ok ha
  refine ⟨p, (mem_liveProductions.1 (List.mem_of_getElem? hp)).1, hresult,
    (performs_of_armOf ha).replaces, ?_⟩
  rw [hsim, List.getElem?_map, hp, hresult]
  rfl

theorem liveProductions_eq (a : Automaton) :
    liveProductions a =
      a.productions.zipIdx.filter fun p => decide (p.1.nt ∈ a.liveNonterminals) := by
  simp only [liveProductions, List.contains_eq_mem]

/-- Every arm finds its own row in the simulator exactly if no production of a live nonterminal
stands behind one whose nonterminal is not live. -/
theorem forall_simulates_iff (h : sourceUnit settings a = .ok u) :
    (∀ arm ∈ u.arms, u.Simulates a arm) ↔
      a.productions.Pairwise fun p q =>
        q.nt ∈ a.liveNonterminals → p.nt ∈ a.liveNonterminals := by
  have hcount : u.simulator.rows.length =
      a.productions.countP fun p => decide (p.nt ∈ a.liveNonterminals) := by
    rw [(sourceUnit_eq_ok h).2.1, List.length_map, liveProductions_eq,
      length_filter_zipIdx (p := fun q : Production => decide (q.nt ∈ a.liveNonterminals))]
  have hpair := pairwise_iff_forall_lt_countP a.productions
    (p := fun q : Production => decide (q.nt ∈ a.liveNonterminals))
  simp only [decide_eq_true_eq] at hpair
  constructor
  · intro hall
    refine hpair.2 fun i p hp hlive => ?_
    obtain ⟨arm, hmem, harm, -⟩ := exists_arm h hp hlive
    obtain ⟨rfl, -⟩ := armOf_eq_ok harm
    obtain ⟨q, -, hrow, -⟩ := hall arm hmem
    exact hcount ▸ (List.getElem?_eq_some_iff.1 hrow).1
  · intro hlive arm hmem
    obtain ⟨p, hp, hl, harm⟩ := production_of_mem_arms h hmem
    have hplace := getElem?_filter_zipIdx
      (p := fun q : Production => decide (q.nt ∈ a.liveNonterminals))
      (by simpa only [decide_eq_true_eq] using hlive) 0 hp (decide_eq_true hl)
    rw [← liveProductions_eq, Nat.zero_add] at hplace
    obtain ⟨arm', harm', ha⟩ := getElem?_of_mapM' (sourceUnit_eq_ok h).1 hplace
    obtain rfl : arm = arm' := Except.ok.inj (harm.symm.trans ha)
    obtain ⟨p', hp', -, hrep, hrow⟩ := getElem?_simulator_rows h harm'
    exact ⟨p', hp', hrow, hrep⟩

end Compiled

/-- In a rendered document the rows of the simulator are those of the arms, in the same order.
The row at the number of each arm says how many values the arm takes and what it reduces to,
exactly if every production of a nonterminal that is not live stands behind the productions of
all live ones. -/
theorem simulator_rows_numbered_iff (settings : Settings) (a : Automaton) (text : String)
    (h : render settings .compiled a = .ok text) :
    ∃ u, Compiled.sourceUnit settings.compiled a = .ok u ∧ text = Source.text u.lines ∧
      (∀ (k : Nat) (arm : Compiled.Arm), u.arms[k]? = some arm →
        ∃ p, a.productions[arm.index]? = some p ∧ arm.Replaces p.slotCount ∧
          u.simulator.rows[k]? = some ⟨p.slotCount, arm.result⟩) ∧
      ((∀ arm ∈ u.arms, u.Simulates a arm) ↔
        a.productions.Pairwise fun p q =>
          q.nt ∈ a.liveNonterminals → p.nt ∈ a.liveNonterminals) := by
  obtain ⟨-, u, hu, htext⟩ := render_compiled_eq_ok_iff.1 h
  refine ⟨u, hu, htext, fun k arm harm => ?_, Compiled.forall_simulates_iff hu⟩
  obtain ⟨p, hp, -, hrep, hrow⟩ := Compiled.getElem?_simulator_rows hu harm
  exact ⟨p, hp, hrep, hrow⟩

/-- The goal of `pairing` stands first, so its arms do not find their rows. -/
theorem simulator_rows_numbered_iff_pairing :
    (∃ text, render {} .compiled pairing = .ok text) ∧
      ∃ u, Compiled.sourceUnit {} pairing = .ok u ∧
        ¬ ∀ arm ∈ u.arms, u.Simulates pairing arm := by
  obtain ⟨text, h⟩ := pairing_renders .compiled
  obtain ⟨u, hu, -, -, hiff⟩ := simulator_rows_numbered_iff {} pairing text h
  exact ⟨⟨text, h⟩, u, hu, fun hall => absurd (hiff.1 hall) (by decide +kernel)⟩

/-! ### The places of the reductions -/

namespace Interpreted

/-- The entry is the one of `p`: its nonterminal, the number of its slots, and a function that
computes the value of its reducer. -/
def Reduction.IsEntryOf (g : Declarations) (p : Production) (r : Reduction) : Prop :=
  r.nonterminal = p.nt.pretty ∧ r.arity = p.slotCount ∧ r.Returns g p

variable {package : String} {a : Automaton} {u : SourceUnit}

theorem isEntryOf_of_reductionOf {g : Declarations} {i : Nat} {p : Production} {r : Reduction}
    (h : reductionOf g i p = .ok r) : r.index = i ∧ r.IsEntryOf g p := by
  obtain ⟨e, -, heq⟩ := reductionOf_eq_ok h
  exact ⟨by rw [heq], by rw [heq], by rw [heq], returns_of_reductionOf h⟩

/-- Every production that is no goal has its entry at the place of its number exactly if no such
production stands behind a goal. -/
theorem forall_isEntryOf_iff (h : sourceUnit package a = .ok u) :
    (∀ (i : Nat) (p : Production), a.productions[i]? = some p → p.goal = false →
      ∃ r : Reduction, u.reductions[i]? = some r ∧ r.index = i ∧ r.IsEntryOf a.grammar p) ↔
      a.productions.Pairwise fun p q => q.goal = false → p.goal = false := by
  have hcount : u.reductions.length = a.productions.countP fun p => !p.goal := by
    rw [length_of_mapM (sourceUnit_eq_ok h), reducible,
      length_filter_zipIdx (p := fun q : Production => !q.goal)]
  have hpair := pairwise_iff_forall_lt_countP a.productions
    (p := fun q : Production => !q.goal)
  simp only [Bool.not_eq_true'] at hpair
  constructor
  · intro hall
    refine hpair.2 fun i p hp hgoal => ?_
    obtain ⟨r, hr, -⟩ := hall i p hp hgoal
    exact hcount ▸ (List.getElem?_eq_some_iff.1 hr).1
  · intro hgoals i p hp hgoal
    have hplace := getElem?_filter_zipIdx (p := fun q : Production => !q.goal)
      (by simpa only [Bool.not_eq_true'] using hgoals) 0 hp (by rw [hgoal]; rfl)
    rw [← reducible, Nat.zero_add] at hplace
    obtain ⟨r, hr, hred⟩ := getElem?_of_mapM' (sourceUnit_eq_ok h) hplace
    exact ⟨r, hr, isEntryOf_of_reductionOf hred⟩

end Interpreted

/-- In a rendered document the comment above every reduction shows the number of its production,
the number by which the dispatcher of the compiled target finds the arm. Every production that is
no goal has its reduction at the place of this number exactly if the goals stand behind all other
productions. -/
theorem reductions_numbered_iff (settings : Settings) (a : Automaton) (text : String)
    (h : render settings .interpreted a = .ok text) :
    ∃ u, Interpreted.sourceUnit settings.interpreted.package a = .ok u ∧
      text = Source.text u.lines ∧
      (∀ r ∈ u.reductions, ∃ p, a.productions[r.index]? = some p ∧ p.goal = false ∧
        r.IsEntryOf a.grammar p) ∧
      (∀ v, Compiled.sourceUnit settings.compiled a = .ok v →
        ∀ arm ∈ v.arms, ∃ p, a.productions[arm.index]? = some p ∧ arm.Performs a.grammar p) ∧
      ((∀ (i : Nat) (p : Production), a.productions[i]? = some p → p.goal = false →
        ∃ r, u.reductions[i]? = some r ∧ r.index = i ∧ r.IsEntryOf a.grammar p) ↔
        a.productions.Pairwise fun p q => q.goal = false → p.goal = false) := by
  obtain ⟨-, u, hu, htext⟩ := render_interpreted_eq_ok_iff.1 h
  refine ⟨u, hu, htext, fun r hr => ?_, fun v hv arm harm => ?_,
    Interpreted.forall_isEntryOf_iff hu⟩
  · obtain ⟨p, hp, hgoal, hred⟩ := Interpreted.production_of_mem_reductions hu hr
    exact ⟨p, hp, hgoal, (Interpreted.isEntryOf_of_reductionOf hred).2⟩
  · obtain ⟨p, hp, -, hperf⟩ := Compiled.production_of_mem_arms hv harm
    exact ⟨p, hp, Compiled.performs_of_armOf hperf⟩

/-- The goal of `pairing` stands first, so its reductions are not found at their numbers. -/
theorem reductions_numbered_iff_pairing :
    (∃ text, render {} .interpreted pairing = .ok text) ∧
      ∃ u, Interpreted.sourceUnit "lrgen" pairing = .ok u ∧
        ¬ ∀ (i : Nat) (p : Production), pairing.productions[i]? = some p → p.goal = false →
          ∃ r, u.reductions[i]? = some r ∧ r.index = i ∧ r.IsEntryOf pairing.grammar p := by
  obtain ⟨text, h⟩ := pairing_renders .interpreted
  obtain ⟨u, hu, -, -, -, hiff⟩ := reductions_numbered_iff {} pairing text h
  exact ⟨⟨text, h⟩, u, hu, fun hall => absurd (hiff.1 hall) (by decide +kernel)⟩

end ParserTables
