import ParserTables.Proofs.Compiled.Tables
import ParserTables.Proofs.Generation.Acceptance
import ParserTables.Proofs.OrderedMap

/-!
# The cells of the goto table

The goto table is declared as an array of words of 16 bits. Its cells are the targets of the goto
rows as the document has them, and neither the checks nor the emission looks at their size: a
document renders whatever the targets are. So the array is one of words exactly if every target of
the document is the value of a word.
-/

namespace ParserTables

open ParserTables.Grammar ParserTables.Source

/-! ### Targets -/

/-- The map with a function applied to its values. -/
def OrderedMap.mapValues {κ ν : Type} (f : ν → ν) (m : OrderedMap κ ν) : OrderedMap κ ν :=
  ⟨m.entries.map (Prod.map id f), by rw [List.map_map]; exact m.distinct⟩

theorem OrderedMap.keys_mapValues {κ ν : Type} (f : ν → ν) (m : OrderedMap κ ν) :
    (m.mapValues f).keys = m.keys := by
  rw [keys, mapValues, List.map_map]
  rfl

namespace Automaton

/-- The targets of the goto rows. -/
def gotoTargets (a : Automaton) : List Nat :=
  a.states.flatMap fun s => s.gotos.entries.map Prod.snd

/-- The document with other targets in its goto rows. -/
def retarget (f : Nat → Nat) (a : Automaton) : Automaton :=
  { a with states := a.states.map fun s => { s with gotos := s.gotos.mapValues f } }

variable {a : Automaton}

theorem mem_gotoTargets {n : Nat} :
    n ∈ a.gotoTargets ↔ ∃ s ∈ a.states, ∃ nt, s.gotos.get? nt = some n := by
  simp [gotoTargets, OrderedMap.get?_eq_some_iff]

theorem liveNonterminals_retarget (f : Nat → Nat) :
    (a.retarget f).liveNonterminals = a.liveNonterminals := by
  rw [liveNonterminals, liveNonterminals, retarget, List.flatMap_map]
  simp only [OrderedMap.keys_mapValues]

theorem check_retarget (f : Nat → Nat) : (a.retarget f).check = a.check := by
  have hterminals : (a.retarget f).terminals = a.terminals := by
    rw [terminals, terminals, retarget, List.flatMap_map]
  have hcodes : (a.retarget f).errorCodes = a.errorCodes := by
    rw [errorCodes, errorCodes, retarget, List.filterMap_map]
    rfl
  rw [check, check, liveNonterminals_retarget, hterminals, hcodes, retarget, List.length_map]

end Automaton

namespace Compiled

variable {a : Automaton}

/-- What the target demands of a document says nothing about the targets of its goto rows. -/
theorem wellFormed_retarget_iff (f : Nat → Nat) : WellFormed (a.retarget f) ↔ WellFormed a := by
  constructor
  · rintro ⟨hcheck, hproductions, hgoals⟩
    rw [Automaton.check_retarget] at hcheck
    rw [Automaton.liveNonterminals_retarget] at hproductions
    exact ⟨hcheck, hproductions, hgoals⟩
  · rintro ⟨hcheck, hproductions, hgoals⟩
    rw [← Automaton.check_retarget f] at hcheck
    rw [← Automaton.liveNonterminals_retarget f] at hproductions
    exact ⟨hcheck, hproductions, hgoals⟩

/-! ### Cells -/

/-- The cells of the goto table in the order of the table. -/
def gotoCells (a : Automaton) : List Nat :=
  a.states.flatMap fun s => a.liveNonterminals.map fun nt => (s.gotos.get? nt).getD 0

/-- The words are the targets of the goto rows: the word in the row of a state and the column of a
nonterminal is the target of this nonterminal, or zero if it has none. -/
def HoldsTargets (a : Automaton) (words : List UInt16) : Prop :=
  ∀ i s k nt, a.states[i]? = some s → a.liveNonterminals[k]? = some nt →
    (words[i * a.liveNonterminals.length + k]?).map UInt16.toNat =
      some ((s.gotos.get? nt).getD 0)

theorem length_gotoCells (a : Automaton) :
    (gotoCells a).length = a.states.length * a.liveNonterminals.length :=
  length_flatMap_of_width fun _ _ => List.length_map _

theorem getElem?_gotoCells {i k : Nat} {s : State} {nt : Nonterminal} (hs : a.states[i]? = some s)
    (hnt : a.liveNonterminals[k]? = some nt) :
    (gotoCells a)[i * a.liveNonterminals.length + k]? = some ((s.gotos.get? nt).getD 0) := by
  rw [gotoCells, getElem?_flatMap_of_width (fun _ _ => List.length_map _) hs
    (List.getElem?_eq_some_iff.1 hnt).1, List.getElem?_map, hnt]
  rfl

theorem mem_liveNonterminals_of_get? {s : State} {nt : Nonterminal} {n : Nat} (hs : s ∈ a.states)
    (h : s.gotos.get? nt = some n) : nt ∈ a.liveNonterminals :=
  Automaton.mem_liveNonterminals.2
    ⟨s, hs, List.mem_map_of_mem (OrderedMap.get?_eq_some_iff.1 h)⟩

/-- The cells stay below a bound exactly if the targets do. -/
theorem forall_gotoCells_lt_iff {bound : Nat} (hbound : 0 < bound) :
    (∀ n ∈ gotoCells a, n < bound) ↔ ∀ n ∈ a.gotoTargets, n < bound := by
  constructor
  · intro h n hn
    obtain ⟨s, hs, nt, hget⟩ := Automaton.mem_gotoTargets.1 hn
    refine h n (List.mem_flatMap.2 ⟨s, hs, List.mem_map.2
      ⟨nt, mem_liveNonterminals_of_get? hs hget, ?_⟩⟩)
    rw [hget]
    rfl
  · intro h n hn
    obtain ⟨s, hs, hn⟩ := List.mem_flatMap.1 hn
    obtain ⟨nt, -, rfl⟩ := List.mem_map.1 hn
    cases hget : s.gotos.get? nt with
    | none => exact hbound
    | some n => exact h n (Automaton.mem_gotoTargets.2 ⟨s, hs, nt, hget⟩)

/-- Cells that are cut down to words are the targets exactly if the targets are values of words. -/
theorem holdsTargets_gotoCells_iff :
    HoldsTargets a ((gotoCells a).map UInt16.ofNat) ↔ ∀ n ∈ a.gotoTargets, n < UInt16.size := by
  constructor
  · intro h n hn
    obtain ⟨s, hs, nt, hget⟩ := Automaton.mem_gotoTargets.1 hn
    obtain ⟨i, hi⟩ := List.mem_iff_getElem?.1 hs
    obtain ⟨k, hk⟩ := List.mem_iff_getElem?.1 (mem_liveNonterminals_of_get? hs hget)
    have hcell := h i s k nt hi hk
    rw [List.getElem?_map, getElem?_gotoCells hi hk, hget] at hcell
    have hword : (UInt16.ofNat n).toNat = n := Option.some.inj hcell
    exact hword ▸ UInt16.toNat_lt_size (UInt16.ofNat n)
  · intro h i s k nt hs hnt
    have hcell := getElem?_gotoCells hs hnt
    have hlt := (forall_gotoCells_lt_iff (by decide)).2 h _ (List.mem_of_getElem? hcell)
    rw [List.getElem?_map, hcell, Option.map_some, Option.map_some, UInt16.toNat_ofNat_of_lt' hlt]

/-- The goto table of a rendered document is declared as an array of words of 16 bits. Its cells are
values of words, and hold the targets of the document when they are stored as words, exactly if
every target of the document is the value of a word. Nothing makes it so: the document renders with
any other targets as well. -/
theorem goto_cells_fit_iff {settings : Settings} {text : String}
    (h : render settings .compiled a = .ok text) :
    (∃ u cells, sourceUnit settings.compiled a = .ok u ∧ text = Source.text u.lines ∧
      definition? "static GOTO: [u16; " (array? natural?) ';' u.lines =
        some (cells.length, cells) ∧
      ((∀ n ∈ cells, n < UInt16.size) ↔ ∀ n ∈ a.gotoTargets, n < UInt16.size) ∧
      (HoldsTargets a (cells.map UInt16.ofNat) ↔ ∀ n ∈ a.gotoTargets, n < UInt16.size)) ∧
    ∀ f, ∃ text', render settings .compiled (a.retarget f) = .ok text' := by
  constructor
  · obtain ⟨-, u, hu, htext⟩ := render_compiled_eq_ok_iff.1 h
    refine ⟨u, gotoCells a, hu, htext, ?_, forall_gotoCells_lt_iff (by decide),
      holdsTargets_gotoCells_iff⟩
    rw [length_gotoCells]
    exact definition?_gotos hu
  · intro f
    have hwell : WellFormed a := exists_render_compiled_iff.1 ⟨text, h⟩
    exact exists_render_compiled_iff.2 ((wellFormed_retarget_iff f).2 hwell)

/-- A state that goes to `target` by its only nonterminal, and `further` states without actions. -/
def reaching (further target : Nat) : Automaton where
  grammar := .empty
  states := ⟨.empty, .single (.plain "Item") target, none, none⟩ ::
    List.replicate further ⟨.empty, .empty, none, none⟩
  productions := []
  goals := .empty

theorem gotoTargets_reaching (further target : Nat) :
    (reaching further target).gotoTargets = [target] := by
  simp [reaching, Automaton.gotoTargets, OrderedMap.single]

theorem exists_render_reaching (further target : Nat) :
    ∃ text, render {} .compiled (reaching further target) = .ok text := by
  have hlive : (reaching further target).liveNonterminals = [.plain "Item"] := by
    simp [Automaton.liveNonterminals, reaching, OrderedMap.single, OrderedMap.keys,
      List.flatMap_replicate, firstAppearances]
  have hterminals : (reaching further target).terminals = [] := by
    simp [Automaton.terminals, reaching, OrderedMap.keys, List.flatMap_replicate,
      firstAppearances]
  have hcodes : (reaching further target).errorCodes = [] := by
    simp [Automaton.errorCodes, reaching]
  refine exists_render_compiled_iff.2 ⟨?_, by simp [reaching], by
    simp [reaching, OrderedMap.keys]⟩
  rw [Automaton.check, hlive, hterminals, hcodes]
  rfl

/-- A target that needs more than 16 bits: in a document with one state, and in a document with a
state for the target. Both render, and the table does not hold the target. -/
theorem goto_cells_fit_iff_reaching :
    (∀ n ∈ (reaching 65536 65536).gotoTargets, n < (reaching 65536 65536).states.length) ∧
      ∀ a ∈ [reaching 0 65536, reaching 65536 65536], ∃ text u cells,
        render {} .compiled a = .ok text ∧ text = Source.text (SourceUnit.lines u) ∧
        definition? "static GOTO: [u16; " (array? natural?) ';' u.lines =
          some (cells.length, cells) ∧
        ¬ (∀ n ∈ cells, n < UInt16.size) ∧ ¬ HoldsTargets a (cells.map UInt16.ofNat) := by
  refine ⟨?_, fun a ha => ?_⟩
  · rw [gotoTargets_reaching, List.forall_mem_singleton, reaching, List.length_cons,
      List.length_replicate]
    exact Nat.lt_succ_self 65536
  · obtain ⟨further, rfl⟩ : ∃ further, a = reaching further 65536 := by
      rcases List.mem_pair.1 ha with rfl | rfl
      · exact ⟨0, rfl⟩
      · exact ⟨65536, rfl⟩
    obtain ⟨text, h⟩ := exists_render_reaching further 65536
    obtain ⟨⟨u, cells, -, htext, hcells, hfit, hholds⟩, -⟩ := goto_cells_fit_iff h
    have hlarge : ¬ ∀ n ∈ (reaching further 65536).gotoTargets, n < UInt16.size := by
      rw [gotoTargets_reaching, List.forall_mem_singleton]
      decide
    exact ⟨text, u, cells, h, htext, hcells, mt hfit.1 hlarge, mt hholds.1 hlarge⟩

end Compiled

end ParserTables
