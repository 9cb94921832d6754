import Mathlib
import ParserTables.Proofs.Generation.Rendering
import ParserTables.Proofs.Grammar.Symbol
import ParserTables.Proofs.Observation
import ParserTables.Proofs.Reduction.Nodes

/-!
# Calls that pass their failure on

Where the calls of the handler stand in a pushed expression, and which of them are followed by the
mark that passes a failure on. A call is taken with the texts that stand before it and behind it, so
the mark is looked for in the text itself. It is there exactly if the signature of the method or the
settings say that the method can fail (`failures_marked`); nothing else about the expression has a
say. The interpreted target has no mark, and does not depend on what can fail at all.
-/

namespace ParserTables

theorem intercalate_cons_eq_append_join (sep a : String) (as : List String) :
    String.intercalate sep (a :: as) = a ++ String.join (as.map (sep ++ ·)) := by
  refine String.toList_injective ?_
  simp only [String.toList_intercalate, List.map_cons, String.toList_append, String.toList_join,
    Grammar.intercalate_cons, List.flatMap_map]

/-! ### Names of methods -/

theorem Text.cutAtFirst?_eq_some {sep : Char} {cs before after : List Char}
    (h : cutAtFirst? sep cs = some (before, after)) : sep ∉ before ∧ cs = before ++ sep :: after := by
  induction cs generalizing before with
  | nil => cases h
  | cons c cs ih =>
      rw [cutAtFirst?] at h
      split at h
      · next hc =>
        cases h
        exact ⟨List.not_mem_nil, by rw [hc, List.nil_append]⟩
      · next hc =>
        obtain ⟨⟨piece, rest⟩, hcut, heq⟩ := Option.map_eq_some_iff.1 h
        cases heq
        obtain ⟨hpiece, rfl⟩ := ih hcut
        exact ⟨fun hmem => (List.mem_cons.1 hmem).elim (fun heq => hc heq.symm) hpiece, rfl⟩

namespace Naming

open ParserTables.Text

/-- What a method is called in the compiled target: the snake form of its tag. If the tag has a
blank, the snake form is that of the part before the first blank, and the number behind the blank
comes after `_p`. -/
def NamesMethod (tag name : String) : Prop :=
  ' ' ∉ tag.toList ∧ name = snake tag ∨
    ∃ nt number, ' ' ∉ nt.toList ∧ tag = nt ++ " " ++ number ∧ name = snake nt ++ "_p" ++ number

theorem namesMethod_compiledMethod (tag : String) : NamesMethod tag (compiledMethod tag) := by
  rw [compiledMethod]
  split
  · next nt number hcut =>
    obtain ⟨hnt, htag⟩ := cutAtFirst?_eq_some hcut
    refine .inr ⟨String.ofList nt, String.ofList number, by rwa [String.toList_ofList], ?_, ?_⟩
    · refine String.toList_injective ?_
      simp only [htag, String.toList_append, String.toList_ofList, List.append_assoc]
      rfl
    · refine String.toList_injective ?_
      simp only [String.toList_append, String.toList_ofList, toList_snake]
      rfl
  · next hcut => exact .inl ⟨(cutAtFirst?_eq_none_iff _ _).1 hcut, rfl⟩

end Naming

/-! ### Calls in a text -/

namespace Compiled

open ParserTables.Grammar ParserTables.Naming
open ParserTables.Reduction (Expr retain retainArgs retain_call_eq_ok retain_some_eq_ok
  retain_slot_eq_ok retainArgs_cons_eq_ok)

/-- A call of the handler in a text: what is written before it, its method and its arguments, and
what is written behind it. -/
structure CallSite where
  before : String
  method : String
  args : List Value
  after : String

namespace CallSite

/-- The text that the call stands in. -/
def text (site : CallSite) : String :=
  site.before ++ ("handler." ++ site.method ++ "(" ++
    String.intercalate ", " (Value.writtenList site.args) ++ ")") ++ site.after

/-- The call is immediately followed by the mark. -/
def IsMarked (site : CallSite) : Prop := site.after.toList.head? = some '?'

end CallSite

namespace Value

/-- Further arguments of a call, each with a comma in front. -/
def furtherWritten (vs : List Value) : String :=
  String.join ((writtenList vs).map (", " ++ ·))

mutual

/-- The calls in an expression that is written between two texts, from the outside to the inside
and from left to right. -/
def callSites (before after : String) : Value → List CallSite
  | .binding _ => []
  | .none => []
  | .some inner => inner.callSites (before ++ "Some(") (")" ++ after)
  | .call method args propagates =>
    ⟨before, method, args, (if propagates then "?" else "") ++ after⟩ ::
      callSitesOfList (before ++ "handler." ++ method ++ "(")
        (")" ++ ((if propagates then "?" else "") ++ after)) args

/-- The calls in arguments that are written between two texts. -/
def callSitesOfList (before after : String) : List Value → List CallSite
  | [] => []
  | v :: rest =>
    v.callSites before (furtherWritten rest ++ after) ++
      callSitesOfList (before ++ v.written ++ ", ") after rest

end

theorem intercalate_writtenList_cons (v : Value) (rest : List Value) :
    String.intercalate ", " (writtenList (v :: rest)) = v.written ++ furtherWritten rest := by
  rw [writtenList, intercalate_cons_eq_append_join, furtherWritten]

theorem furtherWritten_cons (v : Value) (rest : List Value) :
    furtherWritten (v :: rest) = ", " ++ v.written ++ furtherWritten rest := by
  refine String.toList_injective ?_
  simp only [furtherWritten, writtenList, List.map_cons, String.toList_join, List.flatMap_cons,
    String.toList_append]

mutual

/-- Every call stands in the text of the whole expression. -/
theorem text_of_mem_callSites {site : CallSite} : ∀ {v : Value} {before after : String},
    site ∈ v.callSites before after → site.text = before ++ v.written ++ after
  | .some inner, before, after, h => by
      rw [callSites] at h
      rw [text_of_mem_callSites h, written]
      simp only [String.append_assoc]
  | .call method args propagates, before, after, h => by
      rw [callSites, List.mem_cons] at h
      rw [written]
      rcases h with rfl | h
      · simp only [CallSite.text, String.append_assoc]
      · rw [text_of_mem_callSitesOfList h]
        simp only [String.append_assoc]

theorem text_of_mem_callSitesOfList {site : CallSite} :
    ∀ {vs : List Value} {before after : String}, site ∈ callSitesOfList before after vs →
      site.text = before ++ String.intercalate ", " (writtenList vs) ++ after
  | v :: rest, before, after, h => by
      rw [callSitesOfList, List.mem_append] at h
      rw [intercalate_writtenList_cons]
      rcases h with h | h
      · rw [text_of_mem_callSites h]
        simp only [String.append_assoc]
      · rw [text_of_mem_callSitesOfList h]
        cases rest with
        | nil => cases h
        | cons w rest =>
            rw [intercalate_writtenList_cons, furtherWritten_cons]
            simp only [String.append_assoc]

end

end Value

/-- The calls in a statement. -/
def Statement.callSites : Statement → List CallSite
  | .restore v => v.callSites "stack.push(" ");"
  | .push v => v.callSites "stack.push(TryIntoStack::try_into_stack(" ")?);"
  | _ => []

theorem Statement.text_of_mem_callSites {st : Statement} {site : CallSite}
    (h : site ∈ st.callSites) : site.text = st.written := by
  cases st with
  | restore v => exact Value.text_of_mem_callSites h
  | push v => exact Value.text_of_mem_callSites h
  | _ => cases h

/-! ### Marks -/

/-- The call is one of the method with this tag, and is marked exactly if a failure of the method has
to be passed on, be it by its signature or by the settings. -/
structure CallSite.Marks (settings : CompiledSettings) (g : Declarations) (tag : String)
    (site : CallSite) : Prop where
  name : NamesMethod tag site.method
  isMarked_iff : ∃ s, g.method? tag = some s ∧
    (site.IsMarked ↔ s.fallible = true ∨ site.method ∈ settings.fallibleMethods)

section Marks

variable {settings : CompiledSettings} {g : Declarations} {n : Nat} {name : String}

/-- The mark is not written behind something else. -/
def Unmarked (text : String) : Prop := text.toList.head? ≠ some '?'

theorem unmarked_append {c : Char} {text : String} (h : text.toList.head? = some c) (hc : c ≠ '?')
    (rest : String) : Unmarked (text ++ rest) := by
  rw [Unmarked, String.toList_append, List.head?_append, h]
  exact fun heq => hc (Option.some.inj heq)

theorem unmarked_closing (rest : String) : Unmarked (")" ++ rest) :=
  unmarked_append (c := ')') rfl (by decide) rest

theorem unmarked_furtherWritten_append {after : String} (h : Unmarked after) (vs : List Value) :
    Unmarked (Value.furtherWritten vs ++ after) := by
  cases vs with
  | nil =>
      have hnil : Value.furtherWritten [] ++ after = after := String.empty_append
      rwa [hnil]
  | cons v vs =>
      rw [Value.furtherWritten_cons, String.append_assoc, String.append_assoc]
      exact unmarked_append (c := ',') rfl (by decide) _

theorem isMarked_iff {before method after : String} {args : List Value} (h : Unmarked after)
    (propagates : Bool) :
    (CallSite.mk before method args ((if propagates then "?" else "") ++ after)).IsMarked ↔
      propagates = true := by
  cases propagates with
  | true =>
      refine iff_of_true ?_ rfl
      rw [CallSite.IsMarked, if_pos rfl, String.toList_append]
      rfl
  | false =>
      refine iff_of_false ?_ Bool.false_ne_true
      rw [CallSite.IsMarked, if_neg Bool.false_ne_true, String.empty_append]
      exact h

mutual

/-- The calls of a spelled expression are those of the reducer, one by one, and each of them is
marked as its method asks for. -/
theorem forall₂_marks : ∀ {r : Reducer} {e : Expr} {before after : String}, Unmarked after →
    retain g n name r = .ok e →
      List.Forall₂ (CallSite.Marks settings g) (r.calledTags g)
        ((e.spell (spelling settings)).callSites before after)
  | .slot i, e, before, after, _, h => by
      obtain ⟨-, rfl⟩ := retain_slot_eq_ok h
      rw [Reducer.calledTags_slot, spell_slot, Value.callSites]
      exact .nil
  | .none, e, before, after, _, h => by
      cases h
      rw [Reducer.calledTags_none, spell_none, Value.callSites]
      exact .nil
  | .some inner, e, before, after, _, h => by
      obtain ⟨e', he', rfl⟩ := retain_some_eq_ok h
      rw [Reducer.calledTags_some, spell_some, Value.callSites]
      exact forall₂_marks (unmarked_closing after) he'
  | .call method args, e, before, after, hafter, h => by
      obtain ⟨s, es, hs, hl, hes, rfl⟩ := retain_call_eq_ok h
      rw [Reducer.calledTags_call hs, spell_call, Value.callSites]
      have hpropagates : (s.fallible || settings.listsFallible (compiledMethod method)) = true ↔
          s.fallible = true ∨ compiledMethod method ∈ settings.fallibleMethods := by
        rw [Bool.or_eq_true, CompiledSettings.listsFallible, List.contains_iff_mem]
      exact .cons ⟨namesMethod_compiledMethod method, s, hs,
        (isMarked_iff hafter _).trans hpropagates⟩
        (forall₂_marksOfList (unmarked_closing _) hl hes)

theorem forall₂_marksOfList : ∀ {ts : List ValueType} {rs : List Reducer} {es : List Expr}
    {before after : String}, Unmarked after → ts.length = rs.length →
      retainArgs g n name ts rs = .ok es →
        List.Forall₂ (CallSite.Marks settings g) (Reducer.calledTagsOfArgs g ts rs)
          (Value.callSitesOfList before after (Expr.spellList (spelling settings) es))
  | [], [], es, before, after, _, _, h => by
      cases h
      rw [Reducer.calledTagsOfArgs_nil, Expr.spellList, Value.callSitesOfList]
      exact .nil
  | t :: ts, r :: rs, es, before, after, hafter, hl, h => by
      obtain ⟨rfl, hes⟩ | ⟨ht, e, es', he, hes, rfl⟩ := retainArgs_cons_eq_ok h
      · rw [Reducer.calledTagsOfArgs_cons_unit]
        exact forall₂_marksOfList hafter (Nat.succ.inj hl) hes
      · rw [Reducer.calledTagsOfArgs_cons ht, Expr.spellList, Value.callSitesOfList]
        exact List.rel_append (forall₂_marks (unmarked_furtherWritten_append hafter _) he)
          (forall₂_marksOfList hafter (Nat.succ.inj hl) hes)

end

end Marks

/-- The arm computes with the values that it pops: it pushes one expression, on a line of its own
among `ls`. The calls on this line are those of the reducer of `p`, one by one, and each of them is
marked as its method asks for. -/
def Arm.MarksCalls (settings : CompiledSettings) (g : Declarations) (p : Production)
    (ls : List Source.Line) (arm : Arm) : Prop :=
  ∃ pops v, arm.body = pops ++ [.push v] ∧ .code 3 (Statement.push v).written ∈ ls ∧
    (∀ site ∈ (Statement.push v).callSites, site.text = (Statement.push v).written) ∧
    List.Forall₂ (CallSite.Marks settings g) (p.reducer.calledTags g) (Statement.push v).callSites

theorem marksCalls_of_armOf {settings : CompiledSettings} {g : Declarations} {i : Nat}
    {p : Production} {arm : Arm} {ls : List Source.Line} (h : armOf settings g i p = .ok arm)
    (hfull : p.shape = .full) (hwritten : arm.WrittenIn ls) : arm.MarksCalls settings g p ls := by
  obtain ⟨-, -, -, e, he, hbody⟩ := armOf_eq_ok h
  obtain ⟨htrivial, -⟩ | ⟨-, pops, -, hbody⟩ := armBody_eq_ok hbody
  · rw [hfull] at htrivial
    cases htrivial
  · rw [hfull, pushStatement] at hbody
    have hmem : .push (e.spell (spelling settings)) ∈ arm.body := by
      rw [hbody]
      exact List.mem_append_right _ List.mem_cons_self
    refine ⟨pops, _, hbody, hwritten.mem hmem, fun _ => Statement.text_of_mem_callSites, ?_⟩
    exact forall₂_marks (unmarked_closing "?);") he

end Compiled

/-! ### Documents whose methods can fail otherwise -/

/-- The signature of a method that can fail, or cannot. -/
def Grammar.Signature.withFallible (fallible : Bool) (s : Signature) : Signature :=
  { s with fallible }

/-- The declarations with other methods that can fail. -/
def Grammar.Declarations.withFallible (fallible : String → Bool) (g : Declarations) :
    Declarations :=
  { g with methods := ⟨g.methods.entries.map fun m => (m.1, m.2.withFallible (fallible m.1)), by
      rw [List.map_map]
      exact g.methods.distinct⟩ }

/-- The document with other methods that can fail. -/
def Automaton.withFallible (fallible : String → Bool) (a : Automaton) : Automaton :=
  { a with grammar := a.grammar.withFallible fallible }

theorem lookup_map_snd {κ ν ν' : Type} [DecidableEq κ] (h : κ → ν → ν') (k : κ)
    (es : List (κ × ν)) :
    (es.map fun e => (e.1, h e.1 e.2)).lookup k = (es.lookup k).map (h k) := by
  induction es with
  | nil => rfl
  | cons e es ih =>
      obtain ⟨k', v⟩ := e
      rw [List.map_cons, List.lookup_cons, List.lookup_cons, ih]
      by_cases hk : k = k'
      · simp [hk]
      · simp [beq_eq_false_iff_ne.2 hk]

theorem Grammar.Declarations.method?_withFallible (fallible : String → Bool) (g : Declarations)
    (tag : String) : (g.withFallible fallible).method? tag =
      (g.method? tag).map fun s => s.withFallible (fallible tag) :=
  lookup_map_snd (fun tag (s : Signature) => s.withFallible (fallible tag)) tag g.methods.entries

namespace Reduction

open ParserTables.Grammar

/-- The spelling does not look at signatures. -/
def Spelling.IgnoresSignatures {τ : Type} (s : Spelling τ) : Prop :=
  ∀ method signature signature', s.call method signature = s.call method signature'

section WithFallible

variable {τ : Type} {s : Spelling τ} (fallible : String → Bool) (g : Declarations) (n : Nat)
  (name : String)

mutual

/-- A spelling that does not look at signatures does not show which methods can fail. -/
theorem observed_retain_withFallible (hs : s.IgnoresSignatures) : ∀ r : Reducer,
    observed id (Expr.spell s) (retain (g.withFallible fallible) n name r) =
      observed id (Expr.spell s) (retain g n name r)
  | .slot i => by rw [retain, retain]
  | .none => by rw [retain, retain]
  | .some inner => by
      rw [retain, retain]
      exact observed_map_congr (observed_retain_withFallible hs inner) fun e e' he => by
        rw [Expr.spell, Expr.spell, he]
  | .call method args => by
      rw [retain, retain, g.method?_withFallible]
      cases g.method? method with
      | none => rfl
      | some signature =>
          dsimp only [Option.map_some, Signature.withFallible]
          split
          · rfl
          · refine observed_map_congr
              (observed_retainArgs_withFallible hs signature.argumentTypes args) fun es es' hes => ?_
            rw [Expr.spell, Expr.spell, hes, hs method _ signature]

/-- The same for the arguments of a call. -/
theorem observed_retainArgs_withFallible (hs : s.IgnoresSignatures) :
    ∀ (ts : List ValueType) (rs : List Reducer),
      observed id (Expr.spellList s) (retainArgs (g.withFallible fallible) n name ts rs) =
        observed id (Expr.spellList s) (retainArgs g n name ts rs)
  | t :: ts, r :: rs => by
      rw [retainArgs, retainArgs]
      split
      · exact observed_retainArgs_withFallible hs ts rs
      · refine observed_bind_congr (observed_retain_withFallible hs r) fun e e' he => ?_
        refine observed_bind_congr (observed_retainArgs_withFallible hs ts rs) fun es es' hes => ?_
        exact congrArg Except.ok (by rw [Expr.spellList, Expr.spellList, he, hes])
  | [], rs => by cases rs <;> rfl
  | t :: ts, [] => by rfl

end

end WithFallible

end Reduction

namespace Interpreted

open ParserTables.Grammar
open ParserTables.Reduction (Expr Spelling compile bind_compileIn observed_retain_withFallible)

theorem ignoresSignatures_spelling : spelling.IgnoresSignatures := fun _ _ _ => rfl

theorem reductionOf_withFallible (fallible : String → Bool) (g : Declarations) (index : Nat)
    (p : Production) : reductionOf (g.withFallible fallible) index p = reductionOf g index p := by
  have hspelled (g : Declarations) : reductionOf g index p =
      (observed id (Expr.spell spelling) (compile g p)).map fun v =>
        ⟨index, p.display, p.nt.pretty, p.slotCount, v⟩ := by
    rw [reductionOf, bind_compileIn]
    cases compile g p <;> rfl
  rw [hspelled, hspelled, compile, compile,
    observed_retain_withFallible fallible g _ _ ignoresSignatures_spelling]

/-- What can fail has no part in the interpreted target. -/
theorem sourceUnit_withFallible (package : String) (fallible : String → Bool) (a : Automaton) :
    sourceUnit package (a.withFallible fallible) = sourceUnit package a := by
  have hreductions : (fun p : Production × Nat =>
      reductionOf (a.withFallible fallible).grammar p.2 p.1) =
        fun p => reductionOf a.grammar p.2 p.1 :=
    funext fun p => reductionOf_withFallible fallible a.grammar p.2 p.1
  have hmethods : (a.withFallible fallible).grammar.methods.entries.map builderMethod =
      a.grammar.methods.entries.map builderMethod :=
    List.map_map.trans (List.map_congr_left fun m _ => rfl)
  rw [sourceUnit, sourceUnit, hreductions, hmethods]
  rfl

end Interpreted

theorem render_interpreted_withFallible {settings settings' : Settings}
    (h : settings'.interpreted = settings.interpreted) (fallible : String → Bool)
    (a : Automaton) :
    render settings' .interpreted (a.withFallible fallible) = render settings .interpreted a := by
  rw [render, render, unitLines, unitLines, h, Interpreted.sourceUnit_withFallible]
  rfl

/-- In a rendered unit of the compiled target the arm of a production that computes with its values
is written down, and on the line of the value that it pushes every call is immediately followed by
the mark exactly if its method can fail, by its signature or because the settings list its name.
The source of the interpreted target stays the same if other methods can fail, and if other methods
are listed. -/
theorem failures_marked (settings : Settings) (a : Automaton) :
    (∀ text, render settings .compiled a = .ok text →
      ∃ u, Compiled.sourceUnit settings.compiled a = .ok u ∧ text = Source.text u.lines ∧
        ∀ i p, a.productions[i]? = some p → p.nt ∈ a.liveNonterminals → p.shape = .full →
          ∃ arm ∈ u.arms, arm.index = i ∧ (∀ other ∈ u.arms, other.index = i → other = arm) ∧
            arm.WrittenIn u.lines ∧ arm.MarksCalls settings.compiled a.grammar p u.lines) ∧
    ∀ (fallible : String → Bool) (settings' : Settings),
      settings'.interpreted = settings.interpreted →
        render settings' .interpreted (a.withFallible fallible) = render settings .interpreted a := by
  refine ⟨fun text h => ?_, fun fallible settings' h =>
    render_interpreted_withFallible h fallible a⟩
  obtain ⟨-, u, hu, htext⟩ := render_compiled_eq_ok_iff.1 h
  refine ⟨u, hu, htext, fun i p hp hlive hfull => ?_⟩
  obtain ⟨arm, hmem, harm, hunique⟩ := Compiled.exists_arm hu hp hlive
  obtain ⟨hi, -⟩ := Compiled.armOf_eq_ok harm
  have hwritten : arm.WrittenIn u.lines := Compiled.writtenIn_of_mem hmem
  exact ⟨arm, hmem, hi, hunique, hwritten, Compiled.marksCalls_of_armOf harm hfull hwritten⟩

/-- The only reducer nests calls of three methods. One of them can fail by its signature, and one
has a number behind its name. -/
def guarding : Automaton where
  grammar := {
    nonterminalTypes := .single "Item" (.declared "Item")
    methods := ⟨[("Item 1", .infallible [.token] (.declared "Item")),
      ("wrap", ⟨[.option (.declared "Item")], .declared "Item", true⟩),
      ("join", .infallible [.declared "Item", .unit, .declared "Item"] (.declared "Item"))],
      by decide⟩
    variableTerminals := ["NUM"] }
  states := [⟨.empty, .single (.plain "Item") 0, none, none⟩]
  productions := [
    ⟨.plain "Item", [.terminal (.symbol "NUM"), .terminal (.symbol "NUM")],
      .call "join" [.call "wrap" [.some (.call "Item 1" [.slot 0])], .none,
        .call "Item 1" [.slot 1]], false⟩]
  goals := .empty

/-- Settings that list the method with a number. -/
def guardingSettings : Settings := { compiled := { fallibleMethods := ["item_p1"] } }

/-- The line with the calls in the arm of `guarding`, with their marks, and its source for the
interpreted target if every method can fail and none is listed. -/
theorem failures_marked_guarding :
    (∃ u pops v, ∃ arm ∈ u.arms, Compiled.sourceUnit guardingSettings.compiled guarding = .ok u ∧
      arm.body = pops ++ [.push v] ∧
      .code 3 ("stack.push(TryIntoStack::try_into_stack(" ++
        "handler.join(handler.wrap(Some(handler.item_p1(x0)?))?, handler.item_p1(x1)?))?);") ∈
          u.lines ∧
      List.Forall₂ (Compiled.CallSite.Marks guardingSettings.compiled guarding.grammar)
        ["join", "wrap", "Item 1", "Item 1"] (Compiled.Statement.push v).callSites) ∧
    ∃ text, render guardingSettings .interpreted guarding = .ok text ∧
      render { compiled := { fallibleMethods := [] } } .interpreted
        (guarding.withFallible fun _ => true) = .ok text := by
  constructor
  · obtain ⟨text, h⟩ : ∃ text, render guardingSettings .compiled guarding = .ok text :=
      exists_eq_ok_of_isOk (by decide)
    obtain ⟨u, hu, -, hall⟩ := (failures_marked guardingSettings guarding).1 text h
    obtain ⟨arm, hmem, -, -, -, pops, v, hbody, hline, -, hmarks⟩ :=
      hall 0 _ rfl (by decide) (by decide)
    have hwritten : (Compiled.sourceUnit guardingSettings.compiled guarding).map (fun u =>
        u.arms.map fun arm => arm.body.getLast?.map Compiled.Statement.written) =
          .ok [some ("stack.push(TryIntoStack::try_into_stack(" ++
            "handler.join(handler.wrap(Some(handler.item_p1(x0)?))?, handler.item_p1(x1)?))?);")] := by
      decide
    rw [hu, Except.map, Except.ok.injEq] at hwritten
    have hlast := List.mem_map_of_mem
      (f := fun arm : Compiled.Arm => arm.body.getLast?.map Compiled.Statement.written) hmem
    rw [hwritten, List.mem_singleton, hbody, List.getLast?_concat] at hlast
    rw [Option.some.inj hlast] at hline
    exact ⟨u, pops, v, arm, hmem, hu, hbody, hline, hmarks⟩
  · obtain ⟨text, h⟩ : ∃ text, render guardingSettings .interpreted guarding = .ok text :=
      exists_eq_ok_of_isOk (by decide)
    exact ⟨text, h, ((failures_marked guardingSettings guarding).2 (fun _ => true) _ rfl).trans h⟩

end ParserTables
