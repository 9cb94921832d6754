import ParserTables.Generation
import ParserTables.Proofs.Bare
import ParserTables.Proofs.Generation.Reducers
import ParserTables.Proofs.Source.Comments

/-!
# Traces and elided elements reach only comments

Two documents that are the same but for traces and elided elements are generated from alike: both
render or neither does, they are refused with the same fault, up to the production that it quotes,
and the texts are the same once the comments are deleted. The trace of a state and the shown form
of a production are carried by the units to the printing, so the argument follows the units: a unit
is observed without the texts of its comments, and two units that are the same then have the same
lines of code.
-/

namespace ParserTables

open ParserTables.Grammar ParserTables.Source
open ParserTables.Reduction (bind_compileIn)

/-! ### The compiled target -/

namespace Compiled

variable {settings : CompiledSettings} {g : Declarations}

/-- An arm without its comment. -/
def Arm.bare (arm : Arm) : Arm := { arm with comment := "" }

/-- A unit without the texts of its comments. -/
def SourceUnit.bare (u : SourceUnit) : SourceUnit :=
  { u with
    actions := ⟨u.actions.length, u.actions.rows.map fun row => ("", row.2)⟩
    stateErrors := ⟨u.stateErrors.length, u.stateErrors.rows.map fun row => ("", row.2)⟩
    arms := u.arms.map Arm.bare }

theorem liveProductions_bare (a : Automaton) :
    liveProductions a.bare = (liveProductions a).map (Prod.map Production.bare id) := by
  rw [liveProductions, liveProductions, Automaton.liveNonterminals_bare, Automaton.bare,
    List.zipIdx_map, List.filter_map]
  rfl

theorem armBody_bare (p : Production) (value : Value) (read : List Nat) :
    armBody settings g p.bare value read = armBody settings g p value read := by
  rw [armBody, armBody, Production.shape_bare, Production.concrete_bare]

theorem observed_armOf_bare (i : Nat) (p : Production) :
    observed Fault.unquoted Arm.bare (armOf settings g i p.bare) =
      observed Fault.unquoted Arm.bare (armOf settings g i p) := by
  rw [armOf, armOf, bind_compileIn, bind_compileIn]
  refine observed_bind_congr (observed_compile_bare g p) fun e e' he => ?_
  obtain rfl : e = e' := he
  rw [armBody_bare, slotsRead_bare]
  refine observed_bind_congr (r := id) rfl fun body body' hbody => ?_
  obtain rfl : body = body' := hbody
  rfl

theorem observed_arms_bare (a : Automaton) :
    observed Fault.unquoted (List.map Arm.bare)
        ((liveProductions a.bare).mapM fun p => armOf settings g p.2 p.1) =
      observed Fault.unquoted (List.map Arm.bare)
        ((liveProductions a).mapM fun p => armOf settings g p.2 p.1) := by
  rw [liveProductions_bare, List.mapM_map]
  exact observed_mapM_congr (fun p : Production × Nat => observed_armOf_bare p.2 p.1) _

theorem observed_sourceUnit_bare (a : Automaton) :
    observed Fault.unquoted SourceUnit.bare (sourceUnit settings a.bare) =
      observed Fault.unquoted SourceUnit.bare (sourceUnit settings a) := by
  refine observed_bind_congr (observed_arms_bare a) fun arms arms' harms => ?_
  refine observed_bind_congr (r := id) rfl fun entries entries' hentries => ?_
  obtain rfl : entries = entries' := hentries
  simp only [pure, Except.pure, observed_ok, SourceUnit.bare, harms, Automaton.terminals_bare,
    Automaton.liveNonterminals_bare, Automaton.errorCodes_bare, liveProductions_bare]
  simp [Automaton.bare, State.bare, Function.comp_def]

/-! #### Lines -/

theorem codeLines_armLines (arm : Arm) :
    codeLines commentMarker arm.bare.lines = codeLines commentMarker arm.lines := by
  simp [Arm.lines, Arm.bare]

theorem codeLines_separated (marker : String) : ∀ blocks : List (List Line),
    codeLines marker (SourceUnit.separated blocks) =
      SourceUnit.separated (blocks.map (codeLines marker))
  | [] => rfl
  | [block] => rfl
  | block :: next :: rest => by
      have ih := codeLines_separated marker (next :: rest)
      simp only [SourceUnit.separated, List.map_cons, codeLines_append] at ih ⊢
      rw [ih]
      rfl

theorem codeLines_actionLines (i : Nat) (row : String × List (Option Int)) :
    codeLines commentMarker (SourceUnit.actionLines i ("", row.2)) =
      codeLines commentMarker (SourceUnit.actionLines i row) := by
  simp [SourceUnit.actionLines, traceComment]

variable (u : SourceUnit)

theorem codeLines_actionsLines_bare :
    codeLines commentMarker u.bare.actionsLines = codeLines commentMarker u.actionsLines := by
  simp only [SourceUnit.actionsLines, SourceUnit.bare, codeLines_append, codeLines_separated,
    List.zipIdx_map, List.map_map, Function.comp_def, Prod.map_fst, Prod.map_snd, id_eq,
    codeLines_actionLines]

theorem codeLines_errorCodesLines_bare :
    codeLines commentMarker u.bare.errorCodesLines = codeLines commentMarker u.errorCodesLines := by
  simp only [SourceUnit.errorCodesLines, SourceUnit.bare, codeLines_append, codeLines_flatMap,
    List.zipIdx_map, List.flatMap_map]
  simp [traceComment]

theorem codeLines_dispatcherLines_bare :
    codeLines commentMarker u.bare.dispatcherLines = codeLines commentMarker u.dispatcherLines := by
  simp only [SourceUnit.dispatcherLines, SourceUnit.bare, codeLines_append, codeLines_flatMap,
    List.flatMap_map, codeLines_armLines]

/-- The comments of a unit have no part in its code. -/
theorem codeLines_bare :
    codeLines commentMarker u.bare.lines = codeLines commentMarker u.lines := by
  simp only [SourceUnit.lines, codeLines_append, codeLines_actionsLines_bare,
    codeLines_errorCodesLines_bare, codeLines_dispatcherLines_bare]
  rfl

end Compiled

/-! ### The interpreted target -/

namespace Interpreted

variable {package : String} {g : Declarations}

/-- A reduction without its comment. -/
def Reduction.bare (r : Reduction) : Reduction := { r with comment := "" }

/-- A unit without the texts of its comments. -/
def SourceUnit.bare (u : SourceUnit) : SourceUnit :=
  { u with
    actions := u.actions.map fun state => ("", state.2)
    reductions := u.reductions.map Reduction.bare }

theorem reducible_bare (a : Automaton) :
    reducible a.bare = (reducible a).map (Prod.map Production.bare id) := by
  rw [reducible, reducible, Automaton.bare, List.zipIdx_map, List.filter_map]
  rfl

theorem observed_reductionOf_bare (i : Nat) (p : Production) :
    observed Fault.unquoted Reduction.bare (reductionOf g i p.bare) =
      observed Fault.unquoted Reduction.bare (reductionOf g i p) := by
  rw [reductionOf, reductionOf, bind_compileIn, bind_compileIn]
  refine observed_bind_congr (observed_compile_bare g p) fun e e' he => ?_
  obtain rfl : e = e' := he
  simp [pure, Except.pure, Reduction.bare]

theorem observed_reductions_bare (a : Automaton) :
    observed Fault.unquoted (List.map Reduction.bare)
        ((reducible a.bare).mapM fun p => reductionOf g p.2 p.1) =
      observed Fault.unquoted (List.map Reduction.bare)
        ((reducible a).mapM fun p => reductionOf g p.2 p.1) := by
  rw [reducible_bare, List.mapM_map]
  exact observed_mapM_congr (fun p : Production × Nat => observed_reductionOf_bare p.2 p.1) _

theorem observed_sourceUnit_bare (a : Automaton) :
    observed Fault.unquoted SourceUnit.bare (sourceUnit package a.bare) =
      observed Fault.unquoted SourceUnit.bare (sourceUnit package a) := by
  refine observed_bind_congr (observed_reductions_bare a) fun reductions reductions' h => ?_
  simp only [pure, Except.pure, observed_ok, SourceUnit.bare, h]
  simp [Automaton.bare, State.bare, Function.comp_def, defaultGoal]

/-! #### Lines -/

theorem codeLines_reductionLines (r : Reduction) :
    codeLines commentMarker r.bare.lines = codeLines commentMarker r.lines := by
  simp [Reduction.lines, Reduction.bare]

theorem codeLines_actionLines (i : Nat) (state : String × List (Key × Int)) :
    codeLines commentMarker (SourceUnit.actionLines i ("", state.2)) =
      codeLines commentMarker (SourceUnit.actionLines i state) := by
  simp [SourceUnit.actionLines]

variable (u : SourceUnit)

theorem codeLines_actionsLines_bare :
    codeLines commentMarker u.bare.actionsLines = codeLines commentMarker u.actionsLines := by
  simp only [SourceUnit.actionsLines, SourceUnit.bare, codeLines_append, codeLines_flatMap,
    List.zipIdx_map, List.flatMap_map, Prod.map_fst, Prod.map_snd, id_eq, codeLines_actionLines]

theorem codeLines_reductionsLines_bare :
    codeLines commentMarker u.bare.reductionsLines =
      codeLines commentMarker u.reductionsLines := by
  simp only [SourceUnit.reductionsLines, SourceUnit.bare, codeLines_append, codeLines_flatMap,
    List.flatMap_map, codeLines_reductionLines]

/-- The comments of a unit have no part in its code. -/
theorem codeLines_bare :
    codeLines commentMarker u.bare.lines = codeLines commentMarker u.lines := by
  simp only [SourceUnit.lines, codeLines_append, codeLines_actionsLines_bare,
    codeLines_reductionsLines_bare]
  rfl

end Interpreted

/-! ### Both targets -/

/-- The marker of comments in the source of a target. -/
def Target.commentMarker : Target → String
  | .interpreted => Interpreted.commentMarker
  | .compiled => Compiled.commentMarker

theorem Target.isMarker_commentMarker (target : Target) : IsMarker target.commentMarker := by
  cases target with
  | interpreted =>
      refine ⟨⟨'#', [], rfl, rfl⟩, fun c hc => ?_⟩
      obtain rfl : c = '#' := List.mem_singleton.1 hc
      rfl
  | compiled =>
      refine ⟨⟨'/', ['/'], rfl, rfl⟩, fun c hc => ?_⟩
      have hmem : c ∈ List.replicate 2 '/' := hc
      obtain rfl : c = '/' := List.eq_of_mem_replicate hmem
      rfl

section Render

variable (settings : Settings) (target : Target) (a : Automaton)

/-- The lines of code for a document are those for its bare form. -/
theorem observed_unitLines_bare :
    observed Fault.unquoted (codeLines target.commentMarker) (unitLines settings a.bare target) =
      observed Fault.unquoted (codeLines target.commentMarker) (unitLines settings a target) := by
  cases target with
  | interpreted =>
      refine observed_map_congr (Interpreted.observed_sourceUnit_bare a) fun u u' hu => ?_
      rw [Target.commentMarker, ← Interpreted.codeLines_bare, hu, Interpreted.codeLines_bare]
  | compiled =>
      refine observed_map_congr (Compiled.observed_sourceUnit_bare a) fun u u' hu => ?_
      rw [Target.commentMarker, ← Compiled.codeLines_bare, hu, Compiled.codeLines_bare]

theorem observed_render_bare (returns : Bool) :
    observed Fault.unquoted (withoutComments returns target.commentMarker)
        (render settings target a.bare) =
      observed Fault.unquoted (withoutComments returns target.commentMarker)
        (render settings target a) := by
  rw [render, render, Automaton.check_bare]
  refine observed_bind_congr (r := id) rfl fun _ _ _ => ?_
  refine observed_bind_congr (observed_unitLines_bare settings target a) fun lines lines' h => ?_
  exact congrArg Except.ok (withoutComments_text_congr target.isMarker_commentMarker h)

end Render

/-- Documents that are the same but for traces and elided elements are generated from alike,
whatever stands in these texts. Both render or neither does; the faults are the same up to the
production that they quote; and the texts are the same once every line that a reader takes for a
comment is deleted. -/
theorem render_alike_of_sameButComments (settings : Settings) (target : Target) {a a' : Automaton}
    (h : a.SameButComments a') :
    ((∃ text, render settings target a = .ok text) ↔
      ∃ text, render settings target a' = .ok text) ∧
    (∀ f f', render settings target a = .error f → render settings target a' = .error f' →
      f.unquoted = f'.unquoted) ∧
    ∀ text text', render settings target a = .ok text → render settings target a' = .ok text' →
      ∀ returns, withoutComments returns target.commentMarker text =
        withoutComments returns target.commentMarker text' := by
  have halike : ∀ returns, observed Fault.unquoted
      (withoutComments returns target.commentMarker) (render settings target a) =
        observed Fault.unquoted (withoutComments returns target.commentMarker)
          (render settings target a') := by
    intro returns
    rw [← observed_render_bare, h.bare_eq, observed_render_bare]
  refine ⟨exists_ok_congr (halike false), fun f f' hf hf' => ?_,
    fun text text' ht ht' returns => ?_⟩
  · have hobserved := halike false
    rw [hf, hf'] at hobserved
    exact Except.error.inj hobserved
  · have hobserved := halike returns
    rw [ht, ht'] at hobserved
    exact Except.ok.inj hobserved

/-- `pairing` with a trace, a new elided element and a rewritten one, all of which try to leave
their comments. -/
def annotated : Automaton :=
  { pairing with
    states := pairing.states.map fun s => { s with trace := some "start\n];\r\nraise # ]" }
    productions := [
      ⟨.plain "Start", [.elided "*/\npanic!()", .nonterminal (.plain "Pair")], .slot 0, true⟩,
      ⟨.plain "Item", [.terminal (.symbol "NUM")], .slot 0, false⟩,
      ⟨.plain "Item", [.terminal (.symbol "("), .nonterminal (.plain "Item"),
        .terminal (.symbol ")")], .slot 1, false⟩,
      ⟨.plain "Pair", [.nonterminal (.plain "Item"), .elided "\r// none",
        .terminal (.symbol ","), .nonterminal (.plain "Item")],
        .call "pair" [.slot 2, .slot 1, .some (.slot 0)], false⟩] }

theorem sameButComments_annotated : pairing.SameButComments annotated where
  grammar := rfl
  states := .cons ⟨rfl, rfl, rfl⟩ .nil
  productions :=
    .cons ⟨rfl, .insert _ (.keep _ .nil), rfl, rfl⟩ <|
    .cons ⟨rfl, .keep _ .nil, rfl, rfl⟩ <|
    .cons ⟨rfl, .keep _ (.keep _ (.keep _ .nil)), rfl, rfl⟩ <|
    .cons ⟨rfl, .keep _ (.rewrite _ _ (.keep _ (.keep _ .nil))), rfl, rfl⟩ .nil
  goals := rfl

/-- Both targets render `annotated` like `pairing`, up to comments, which do differ. -/
theorem render_alike_of_sameButComments_annotated :
    pairing.SameButComments annotated ∧
      render {} .interpreted pairing ≠ render {} .interpreted annotated ∧
      ∀ target, ∃ text text', render {} target pairing = .ok text ∧
        render {} target annotated = .ok text' ∧
        ∀ returns, withoutComments returns target.commentMarker text =
          withoutComments returns target.commentMarker text' := by
  refine ⟨sameButComments_annotated, by decide +kernel, fun target => ?_⟩
  obtain ⟨hrenders, -, htexts⟩ := render_alike_of_sameButComments {} target sameButComments_annotated
  obtain ⟨text, ht⟩ := pairing_renders target
  obtain ⟨text', ht'⟩ := hrenders.1 ⟨text, ht⟩
  exact ⟨text, text', ht, ht', htexts text text' ht ht'⟩

end ParserTables
