import ParserTables.Proofs.Compiled.Typing
import ParserTables.Proofs.Generation.Rendering

/-!
# Documents that are accepted

A document renders for a target exactly if it passes the checks and every part that the target
makes of it can be made. Otherwise it is refused: by the checks, or for the first production, or
for the first goal of which a part cannot be made. What can be made is a property of the document,
so the settings have no say in it.
-/

namespace ParserTables

open ParserTables.Grammar
open ParserTables.Grammar.Element (Typed TypingFault)
open ParserTables.Reduction (compile bind_compileIn)

/-- What the interpreted target demands of a document. -/
structure Interpreted.WellFormed (a : Automaton) : Prop where
  check : a.check = .ok ()
  productions : ∀ p ∈ a.productions, p.goal = false → p.Compiles a.grammar

/-- The fault that the interpreted target refuses a document with. -/
inductive Interpreted.RefusedWith (a : Automaton) : Fault → Prop
  | check {f : Fault} : a.check = .error f → RefusedWith a f
  | production {f : Fault} : a.check = .ok () →
      FirstFault (fun p => p.goal = false → p.Compiles a.grammar)
        (fun p f => p.goal = false ∧ compile a.grammar p = .error f) a.productions f →
      RefusedWith a f

/-- What the compiled target demands of a document. -/
structure Compiled.WellFormed (a : Automaton) : Prop where
  check : a.check = .ok ()
  productions : ∀ p ∈ a.productions, p.nt ∈ a.liveNonterminals → Reducible a.grammar p
  goals : ∀ goal ∈ a.goals.keys, Typed a.grammar (.nonterminal goal)

/-- The fault that the compiled target refuses a document with. -/
inductive Compiled.RefusedWith (a : Automaton) : Fault → Prop
  | check {f : Fault} : a.check = .error f → RefusedWith a f
  | production {f : Fault} : a.check = .ok () →
      FirstFault (fun p => p.nt ∈ a.liveNonterminals → Reducible a.grammar p)
        (fun p f => p.nt ∈ a.liveNonterminals ∧ ReductionFault a.grammar p f) a.productions f →
      RefusedWith a f
  | goal {f : Fault} : a.check = .ok () →
      (∀ p ∈ a.productions, p.nt ∈ a.liveNonterminals → Reducible a.grammar p) →
      FirstFault (fun goal => Typed a.grammar (.nonterminal goal))
        (fun goal f => TypingFault a.grammar (.nonterminal goal) f) a.goals.keys f →
      RefusedWith a f

section Numbered

variable {α ε : Type} (passes : α → Prop) (fault : α → ε → Prop) (q : α → Bool) (as : List α) (e : ε)

theorem forall_mem_filter_zipIdx_iff :
    (∀ a ∈ as.zipIdx.filter fun a => q a.1, passes a.1) ↔ ∀ a ∈ as, q a = true → passes a := by
  conv_rhs => rw [← List.zipIdx_map_fst 0 as]
  simp only [List.mem_filter, List.forall_mem_map, and_imp]

/-- Numbers have no part in the first fault. -/
theorem firstFault_filter_zipIdx_iff :
    FirstFault (fun a => passes a.1) (fun a => fault a.1) (as.zipIdx.filter fun a => q a.1) e ↔
      FirstFault (fun a => q a = true → passes a) (fun a e => q a = true ∧ fault a e) as e := by
  rw [firstFault_filter_iff]
  conv_rhs => rw [← List.zipIdx_map_fst 0 as, firstFault_map_iff]

end Numbered

section Render

variable {settings : Settings} {target : Target} {a : Automaton} {f : Fault}

theorem exists_render_iff :
    (∃ text, render settings target a = .ok text) ↔
      a.check = .ok () ∧ ∃ lines, unitLines settings a target = .ok lines := by
  simp only [render_eq_ok_iff]
  constructor
  · rintro ⟨-, hc, lines, hl, -⟩
    exact ⟨hc, lines, hl⟩
  · rintro ⟨hc, lines, hl⟩
    exact ⟨_, hc, lines, hl, rfl⟩

theorem render_eq_error_iff :
    render settings target a = .error f ↔
      a.check = .error f ∨ a.check = .ok () ∧ unitLines settings a target = .error f := by
  rw [render, seq_eq_error, bind_pure_eq_error]

end Render

namespace Interpreted

variable {package : String} {g : Declarations} {a : Automaton} {f : Fault}

theorem exists_reductionOf_iff {i : Nat} {p : Production} :
    (∃ r, reductionOf g i p = .ok r) ↔ p.Compiles g := by
  rw [reductionOf, bind_compileIn, exists_bind_pure_eq_ok_iff]
  rfl

theorem reductionOf_eq_error_iff {i : Nat} {p : Production} :
    reductionOf g i p = .error f ↔ compile g p = .error f := by
  rw [reductionOf, bind_compileIn, bind_pure_eq_error]

theorem exists_sourceUnit_iff :
    (∃ u, sourceUnit package a = .ok u) ↔
      ∀ p ∈ a.productions, p.goal = false → p.Compiles a.grammar := by
  rw [sourceUnit, exists_bind_pure_eq_ok_iff, exists_mapM_eq_ok_iff]
  simp only [exists_reductionOf_iff]
  have hfilter := forall_mem_filter_zipIdx_iff (Production.Compiles a.grammar) (fun p => !p.goal)
    a.productions
  simp only [Bool.not_eq_true'] at hfilter
  exact hfilter

theorem sourceUnit_eq_error_iff :
    sourceUnit package a = .error f ↔
      FirstFault (fun p => p.goal = false → p.Compiles a.grammar)
        (fun p f => p.goal = false ∧ compile a.grammar p = .error f) a.productions f := by
  rw [sourceUnit, bind_pure_eq_error,
    mapM_eq_error_iff (fun _ => exists_reductionOf_iff) (fun _ _ => reductionOf_eq_error_iff)]
  have hfilter := firstFault_filter_zipIdx_iff (Production.Compiles a.grammar)
    (fun p f => compile a.grammar p = .error f) (fun p => !p.goal) a.productions f
  simp only [Bool.not_eq_true'] at hfilter
  exact hfilter

theorem exists_render_interpreted_iff {settings : Settings} :
    (∃ text, render settings .interpreted a = .ok text) ↔ WellFormed a := by
  rw [exists_render_iff]
  simp only [unitLines, map_eq_ok]
  constructor
  · rintro ⟨hcheck, -, u, hu, -⟩
    exact ⟨hcheck, exists_sourceUnit_iff.1 ⟨u, hu⟩⟩
  · rintro ⟨hcheck, hproductions⟩
    obtain ⟨u, hu⟩ := exists_sourceUnit_iff.2 hproductions
    exact ⟨hcheck, _, u, hu, rfl⟩

theorem render_interpreted_eq_error_iff {settings : Settings} :
    render settings .interpreted a = .error f ↔ RefusedWith a f := by
  rw [render_eq_error_iff, unitLines, map_eq_error, sourceUnit_eq_error_iff]
  constructor
  · rintro (h | ⟨hcheck, h⟩)
    · exact .check h
    · exact .production hcheck h
  · intro h
    cases h with
    | check h => exact .inl h
    | production hcheck h => exact .inr ⟨hcheck, h⟩

end Interpreted

namespace Compiled

variable {settings : CompiledSettings} {a : Automaton} {f : Fault}

theorem exists_arms_iff :
    (∃ arms, (liveProductions a).mapM (fun p => armOf settings a.grammar p.2 p.1) = .ok arms) ↔
      ∀ p ∈ a.productions, p.nt ∈ a.liveNonterminals → Reducible a.grammar p := by
  rw [exists_mapM_eq_ok_iff]
  simp only [exists_armOf_iff]
  have hfilter := forall_mem_filter_zipIdx_iff (Reducible a.grammar)
    (fun p => a.liveNonterminals.contains p.nt) a.productions
  simp only [List.contains_iff_mem] at hfilter
  exact hfilter

theorem arms_eq_error_iff :
    (liveProductions a).mapM (fun p => armOf settings a.grammar p.2 p.1) = .error f ↔
      FirstFault (fun p => p.nt ∈ a.liveNonterminals → Reducible a.grammar p)
        (fun p f => p.nt ∈ a.liveNonterminals ∧ ReductionFault a.grammar p f) a.productions f := by
  rw [mapM_eq_error_iff (fun _ => exists_armOf_iff) (fun _ _ => armOf_eq_error_iff)]
  have hfilter := firstFault_filter_zipIdx_iff (Reducible a.grammar) (ReductionFault a.grammar)
    (fun p => a.liveNonterminals.contains p.nt) a.productions f
  simp only [List.contains_iff_mem] at hfilter
  exact hfilter

theorem exists_entries_iff :
    (∃ entries, a.goals.entries.mapM (entryOf settings a.grammar) = .ok entries) ↔
      ∀ goal ∈ a.goals.keys, Typed a.grammar (.nonterminal goal) := by
  rw [exists_mapM_eq_ok_iff, OrderedMap.keys, List.forall_mem_map]
  simp only [exists_entryOf_iff]

theorem entries_eq_error_iff :
    a.goals.entries.mapM (entryOf settings a.grammar) = .error f ↔
      FirstFault (fun goal => Typed a.grammar (.nonterminal goal))
        (fun goal f => TypingFault a.grammar (.nonterminal goal) f) a.goals.keys f := by
  rw [mapM_eq_error_iff (fun _ => exists_entryOf_iff) (fun _ _ => entryOf_eq_error_iff),
    OrderedMap.keys, firstFault_map_iff]

theorem exists_sourceUnit_iff :
    (∃ u, sourceUnit settings a = .ok u) ↔
      (∀ p ∈ a.productions, p.nt ∈ a.liveNonterminals → Reducible a.grammar p) ∧
        ∀ goal ∈ a.goals.keys, Typed a.grammar (.nonterminal goal) := by
  rw [sourceUnit, exists_bind_eq_ok_iff, ← exists_arms_iff, ← exists_entries_iff,
    ← exists_and_right]
  exact exists_congr fun arms => and_congr_right fun _ => exists_bind_pure_eq_ok_iff

theorem sourceUnit_eq_error_iff :
    sourceUnit settings a = .error f ↔
      (liveProductions a).mapM (fun p => armOf settings a.grammar p.2 p.1) = .error f ∨
        (∃ arms, (liveProductions a).mapM (fun p => armOf settings a.grammar p.2 p.1) = .ok arms) ∧
          a.goals.entries.mapM (entryOf settings a.grammar) = .error f := by
  rw [sourceUnit, bind_eq_error]
  simp only [bind_pure_eq_error, exists_and_right]

theorem exists_render_compiled_iff {settings : Settings} :
    (∃ text, render settings .compiled a = .ok text) ↔ WellFormed a := by
  rw [exists_render_iff]
  simp only [unitLines, map_eq_ok]
  constructor
  · rintro ⟨hcheck, -, u, hu, -⟩
    obtain ⟨hproductions, hgoals⟩ := exists_sourceUnit_iff.1 ⟨u, hu⟩
    exact ⟨hcheck, hproductions, hgoals⟩
  · rintro ⟨hcheck, hproductions, hgoals⟩
    obtain ⟨u, hu⟩ := exists_sourceUnit_iff.2 ⟨hproductions, hgoals⟩
    exact ⟨hcheck, _, u, hu, rfl⟩

theorem render_compiled_eq_error_iff {settings : Settings} :
    render settings .compiled a = .error f ↔ RefusedWith a f := by
  rw [render_eq_error_iff, unitLines, map_eq_error, sourceUnit_eq_error_iff, arms_eq_error_iff,
    exists_arms_iff, entries_eq_error_iff]
  constructor
  · rintro (h | ⟨hcheck, h | ⟨hproductions, h⟩⟩)
    · exact .check h
    · exact .production hcheck h
    · exact .goal hcheck hproductions h
  · intro h
    cases h with
    | check h => exact .inl h
    | production hcheck h => exact .inr ⟨hcheck, .inl h⟩
    | goal hcheck hproductions h => exact .inr ⟨hcheck, .inr ⟨hproductions, h⟩⟩

end Compiled

/-- Which documents render for a target, and the fault that the others are refused with. Neither
depends on the settings. -/
theorem render_settles_wellFormedness (a : Automaton) :
    (∀ settings, (∃ text, render settings .interpreted a = .ok text) ↔
      Interpreted.WellFormed a) ∧
    (∀ settings f, render settings .interpreted a = .error f ↔ Interpreted.RefusedWith a f) ∧
    (∀ settings, (∃ text, render settings .compiled a = .ok text) ↔ Compiled.WellFormed a) ∧
    (∀ settings f, render settings .compiled a = .error f ↔ Compiled.RefusedWith a f) ∧
    ∀ settings settings' target,
      ((∃ text, render settings target a = .ok text) ↔
        ∃ text, render settings' target a = .ok text) ∧
      ∀ f, render settings target a = .error f ↔ render settings' target a = .error f := by
  refine ⟨fun _ => Interpreted.exists_render_interpreted_iff,
    fun _ _ => Interpreted.render_interpreted_eq_error_iff,
    fun _ => Compiled.exists_render_compiled_iff,
    fun _ _ => Compiled.render_compiled_eq_error_iff, fun settings settings' target => ?_⟩
  cases target with
  | interpreted =>
      exact ⟨Interpreted.exists_render_interpreted_iff.trans
          Interpreted.exists_render_interpreted_iff.symm,
        fun _ => Interpreted.render_interpreted_eq_error_iff.trans
          Interpreted.render_interpreted_eq_error_iff.symm⟩
  | compiled =>
      exact ⟨Compiled.exists_render_compiled_iff.trans Compiled.exists_render_compiled_iff.symm,
        fun _ => Compiled.render_compiled_eq_error_iff.trans
          Compiled.render_compiled_eq_error_iff.symm⟩

/-- Neither of the two values that the only production reads has a known type. -/
def untyped : Automaton where
  grammar := {
    nonterminalTypes := .empty
    methods := ⟨[("pair", .infallible [.declared "A", .declared "B"] (.declared "Pair"))],
      by decide⟩
    variableTerminals := [] }
  states := [⟨.empty, ⟨[(.plain "Pair", 0)], by decide⟩, none, none⟩]
  productions := [
    ⟨.plain "Pair", [.nonterminal (.plain "A"), .nonterminal (.plain "B")],
      .call "pair" [.slot 0, .slot 1], false⟩]
  goals := .empty

example : render {} .compiled untyped = .error (.missingType "B") := by decide +kernel

end ParserTables
