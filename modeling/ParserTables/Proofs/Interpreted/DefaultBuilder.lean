import Mathlib.Data.List.Forall2
import ParserTables.Proofs.Interpreted.Methods
import ParserTables.Proofs.Reduction.Nodes

/-!
# The default builder

What the functions of the reductions return when their calls go to the default builder of the same
unit. A call fails if it finds no method, or if it has not one argument for each parameter of the
method; otherwise it returns the tag of the method with the arguments. Calls are written with as
many arguments as their methods take, so a function does what its reducer says exactly if all its
calls get to their methods (`reductions_fit_default_builder_iff`).
-/

namespace ParserTables.Interpreted

open ParserTables.Grammar ParserTables.Naming
open ParserTables.Reduction (Expr Meaning compile retain retainArgs value? value?_of_retain
  retain_call_eq_ok retain_some_eq_ok retain_slot_eq_ok retainArgs_cons_eq_ok length_of_retainArgs)

/-- What the default builder makes out of given values: nothing, and tuples of a tag and
arguments. -/
inductive Tagged (ν : Type) where
  | given (value : ν)
  | nothing
  | tuple (tag : String) (args : List (Tagged ν))

/-- Methods make tuples with their tags, and a present value is the value itself. -/
def Tagged.meaning {ν : Type} : Meaning (Tagged ν) := ⟨.nothing, id, .tuple⟩

/-- What a call of a method returns. -/
def BuilderMethod.call? {ν : Type} (m : BuilderMethod) (args : List (Tagged ν)) :
    Option (Tagged ν) :=
  if args.length = m.arity then some (.tuple m.tag args) else none

namespace Value

section Built

variable {ν : Type} (A : Alphabet) (u : SourceUnit) (params : List (Tagged ν))

mutual

/-- What an expression evaluates to over the values of the parameters, with the default builder of
a unit. -/
def built? : Value → Option (Tagged ν)
  | .param i => params[i]?
  | .none => some .nothing
  | .call method args =>
    (u.method? A method).bind fun m => (builtList? args).bind fun vs => m.call? vs

/-- What several expressions evaluate to. -/
def builtList? : List Value → Option (List (Tagged ν))
  | [] => some []
  | v :: rest => (built? v).bind fun x => (builtList? rest).map fun xs => x :: xs

end

end Built

mutual

/-- The calls in an expression, at any depth, from the outside to the inside and from left to
right: the name that is called, and the number of arguments. -/
def calls : Value → List (String × Nat)
  | .param _ => []
  | .none => []
  | .call method args => (method, args.length) :: callsOfList args

/-- The calls in several expressions. -/
def callsOfList : List Value → List (String × Nat)
  | [] => []
  | v :: rest => v.calls ++ callsOfList rest

end

end Value

/-- What the function of a reduction returns with the default builder of a unit. -/
def Reduction.built? {ν : Type} (A : Alphabet) (u : SourceUnit) (r : Reduction)
    (params : List (Tagged ν)) : Option (Tagged ν) :=
  if params.length = r.arity then r.value.built? A u params else none

/-- A call finds the method of this tag, and has one argument for each of its parameters. -/
def SourceUnit.Resolves (A : Alphabet) (u : SourceUnit) (tag : String) (call : String × Nat) :
    Prop :=
  ∃ m, u.method? A call.1 = some m ∧ m.tag = tag ∧ m.arity = call.2

/-- The function of `r` fits the default builder of `u`: its calls are those of the reducer of `p`,
each of them resolves to the method of its tag and passes as many arguments as the method takes,
and for any values of the slots the function returns the nested tuples of the reducer. -/
structure Reduction.FitsBuilder (A : Alphabet) (u : SourceUnit) (g : Declarations) (p : Production)
    (r : Reduction) : Prop where
  calls : List.Forall₂ (u.Resolves A) (p.reducer.calledTags g) r.value.calls
  value : ∀ (ν : Type) (slots : List (Tagged ν)), slots.length = p.slotCount →
    ∃ v, r.built? A u slots = some v ∧ value? Tagged.meaning g slots p.reducer = some v

variable {ν : Type} {A : Alphabet} {u : SourceUnit} {g : Declarations} {n : Nat} {name : String}

/-! ### Calls -/

/-- The call is written for the method of this tag, with an argument for each parameter that has a
value. -/
def CallsMethod (g : Declarations) (tag : String) (call : String × Nat) : Prop :=
  ∃ s, g.method? tag = some s ∧ call = (interpretedMethod tag, s.valueArity)

theorem length_spellList {τ : Type} (s : ParserTables.Reduction.Spelling τ) (es : List Expr) :
    (Expr.spellList s es).length = es.length := by
  induction es with
  | nil => rfl
  | cons e es ih => rw [Expr.spellList, List.length_cons, List.length_cons, ih]

mutual

/-- The calls of a spelled expression are those of the reducer, one by one. -/
theorem forall₂_calls : ∀ {r : Reducer} {e : Expr}, retain g n name r = .ok e →
    List.Forall₂ (CallsMethod g) (r.calledTags g) (e.spell spelling).calls
  | .slot i, e, h => by
      obtain ⟨-, rfl⟩ := retain_slot_eq_ok h
      rw [Reducer.calledTags_slot, spell_slot, Value.calls]
      exact .nil
  | .none, e, h => by
      cases h
      rw [Reducer.calledTags_none, spell_none, Value.calls]
      exact .nil
  | .some inner, e, h => by
      obtain ⟨e', he', rfl⟩ := retain_some_eq_ok h
      rw [Reducer.calledTags_some, spell_some]
      exact forall₂_calls he'
  | .call method args, e, h => by
      obtain ⟨s, es, hs, hl, hes, rfl⟩ := retain_call_eq_ok h
      rw [Reducer.calledTags_call hs, spell_call, Value.calls]
      refine .cons ⟨s, hs, ?_⟩ (forall₂_callsOfList hl hes)
      rw [length_spellList, length_of_retainArgs hl hes]
      rfl

theorem forall₂_callsOfList : ∀ {ts : List ValueType} {rs : List Reducer} {es : List Expr},
    ts.length = rs.length → retainArgs g n name ts rs = .ok es →
      List.Forall₂ (CallsMethod g) (Reducer.calledTagsOfArgs g ts rs)
        (Value.callsOfList (Expr.spellList spelling es))
  | [], [], es, _, h => by
      cases h
      rw [Reducer.calledTagsOfArgs_nil, Expr.spellList, Value.callsOfList]
      exact .nil
  | t :: ts, r :: rs, es, hl, h => by
      obtain ⟨rfl, hes⟩ | ⟨ht, e, es', he, hes, rfl⟩ := retainArgs_cons_eq_ok h
      · rw [Reducer.calledTagsOfArgs_cons_unit]
        exact forall₂_callsOfList (Nat.succ.inj hl) hes
      · rw [Reducer.calledTagsOfArgs_cons ht, Expr.spellList, Value.callsOfList]
        exact List.rel_append (forall₂_calls he) (forall₂_callsOfList (Nat.succ.inj hl) hes)

end

/-- There is a call by the name of every tag. -/
theorem exists_call_of_mem {tags : List String} {calls : List (String × Nat)} {tag : String}
    (h : List.Forall₂ (CallsMethod g) tags calls) (htag : tag ∈ tags) :
    ∃ call ∈ calls, call.1 = interpretedMethod tag := by
  induction h with
  | nil => cases htag
  | @cons tag' call _ calls hcall _ ih =>
      obtain rfl | htag := List.mem_cons.1 htag
      · obtain ⟨s, -, rfl⟩ := hcall
        exact ⟨_, List.mem_cons_self, rfl⟩
      · obtain ⟨call', hmem, hname⟩ := ih htag
        exact ⟨call', List.mem_cons_of_mem _ hmem, hname⟩

/-- Every call is one of a declared method. -/
theorem exists_method_of_mem {tags : List String} {calls : List (String × Nat)}
    {call : String × Nat} (h : List.Forall₂ (CallsMethod g) tags calls) (hcall : call ∈ calls) :
    ∃ tag ∈ g.methods.keys, call.1 = interpretedMethod tag := by
  induction h with
  | nil => cases hcall
  | @cons tag call' _ calls hmethod _ ih =>
      obtain rfl | hcall := List.mem_cons.1 hcall
      · obtain ⟨s, hs, rfl⟩ := hmethod
        obtain ⟨before, after, hentries, -⟩ := List.lookup_eq_some_iff.1 hs
        exact ⟨tag, by simp [OrderedMap.keys, hentries], rfl⟩
      · exact ih hcall

/-- Calls resolve exactly if they get to the methods of their tags. -/
theorem forall₂_resolves_iff {package : String} {a : Automaton}
    (h : sourceUnit package a = .ok u) (hnames : A.NamesMethods a.grammar) {tags : List String}
    {calls : List (String × Nat)} (hcalls : List.Forall₂ (CallsMethod a.grammar) tags calls) :
    List.Forall₂ (u.Resolves A) tags calls ↔ ∀ tag ∈ tags, A.Reaches a.grammar tag := by
  induction hcalls with
  | nil => simp
  | cons hcall _ ih =>
      obtain ⟨s, hs, rfl⟩ := hcall
      rw [List.forall₂_cons, List.forall_mem_cons, ih]
      exact and_congr_left' (exists_method?_iff h hnames hs)

/-! ### Values -/

/-- The default builder of a unit answers for the method of a tag under its name. -/
def SourceUnit.Answers (A : Alphabet) (u : SourceUnit) (g : Declarations) (tag : String) : Prop :=
  ∀ s, g.method? tag = some s →
    u.method? A (interpretedMethod tag) = some (builderMethod (tag, s))

mutual

/-- With a builder that answers for every method that is called, a spelled expression evaluates to
the nested tuples that it means. -/
theorem built?_spell {slots : List (Tagged ν)} (hn : slots.length = n) :
    ∀ {r : Reducer} {e : Expr}, (∀ tag ∈ r.calledTags g, u.Answers A g tag) →
      retain g n name r = .ok e →
        (e.spell spelling).built? A u slots = some (e.spell (Tagged.meaning.spelling slots))
  | .slot i, e, _, h => by
      obtain ⟨hi, rfl⟩ := retain_slot_eq_ok h
      have hi' : i < slots.length := hn ▸ hi
      rw [spell_slot, Value.built?]
      simp [Expr.spell, Meaning.spelling, hi']
  | .none, e, _, h => by
      cases h
      rw [spell_none, Value.built?]
      rfl
  | .some inner, e, hu, h => by
      obtain ⟨e', he', rfl⟩ := retain_some_eq_ok h
      rw [Reducer.calledTags_some] at hu
      rw [spell_some, built?_spell hn hu he']
      rfl
  | .call method args, e, hu, h => by
      obtain ⟨s, es, hs, hl, hes, rfl⟩ := retain_call_eq_ok h
      rw [Reducer.calledTags_call hs, List.forall_mem_cons] at hu
      have harity : (Expr.spellList (Tagged.meaning.spelling slots) es).length =
          (builderMethod (method, s)).arity := by
        rw [length_spellList, length_of_retainArgs hl hes]
        rfl
      rw [spell_call, Value.built?, hu.1 s hs, Option.bind_some,
        builtList?_spellList hn hl hu.2 hes, Option.bind_some, BuilderMethod.call?, if_pos harity]
      rfl

theorem builtList?_spellList {slots : List (Tagged ν)} (hn : slots.length = n) :
    ∀ {ts : List ValueType} {rs : List Reducer} {es : List Expr}, ts.length = rs.length →
      (∀ tag ∈ Reducer.calledTagsOfArgs g ts rs, u.Answers A g tag) →
        retainArgs g n name ts rs = .ok es →
          Value.builtList? A u slots (Expr.spellList spelling es) =
            some (Expr.spellList (Tagged.meaning.spelling slots) es)
  | [], [], es, _, _, h => by
      cases h
      rfl
  | t :: ts, r :: rs, es, hl, hu, h => by
      obtain ⟨rfl, hes⟩ | ⟨ht, e, es', he, hes, rfl⟩ := retainArgs_cons_eq_ok h
      · rw [Reducer.calledTagsOfArgs_cons_unit] at hu
        exact builtList?_spellList hn (Nat.succ.inj hl) hu hes
      · rw [Reducer.calledTagsOfArgs_cons ht, List.forall_mem_append] at hu
        rw [Expr.spellList, Value.builtList?, built?_spell hn hu.1 he, Option.bind_some,
          builtList?_spellList hn (Nat.succ.inj hl) hu.2 hes]
        rfl

end

mutual

/-- An expression fails if one of its calls finds nothing, wherever this call stands. -/
theorem built?_eq_none (params : List (Tagged ν)) : ∀ {v : Value} {call : String × Nat},
    call ∈ v.calls → u.method? A call.1 = none → v.built? A u params = none
  | .call method args, call, hcall, h => by
      rw [Value.calls, List.mem_cons] at hcall
      rw [Value.built?]
      obtain rfl | hcall := hcall
      · rw [h]
        rfl
      · rw [builtList?_eq_none params hcall h]
        cases u.method? A method <;> rfl

theorem builtList?_eq_none (params : List (Tagged ν)) : ∀ {vs : List Value} {call : String × Nat},
    call ∈ Value.callsOfList vs → u.method? A call.1 = none → Value.builtList? A u params vs = none
  | v :: vs, call, hcall, h => by
      rw [Value.callsOfList, List.mem_append] at hcall
      rw [Value.builtList?]
      obtain hcall | hcall := hcall
      · rw [built?_eq_none params hcall h]
        rfl
      · rw [builtList?_eq_none params hcall h]
        cases v.built? A u params <;> rfl

end

/-! ### Reductions -/

section Reductions

variable {package : String} {a : Automaton} {p : Production} {r : Reduction} {i : Nat}

/-- The function of a production fits the default builder exactly if its calls get to the methods of
their tags. -/
theorem fitsBuilder_iff (h : sourceUnit package a = .ok u) (hnames : A.NamesMethods a.grammar)
    (hr : reductionOf a.grammar i p = .ok r) :
    r.FitsBuilder A u a.grammar p ↔
      ∀ tag ∈ p.reducer.calledTags a.grammar, A.Reaches a.grammar tag := by
  obtain ⟨e, he, rfl⟩ := reductionOf_eq_ok hr
  have hcalls := forall₂_resolves_iff h hnames (forall₂_calls he)
  refine ⟨fun hfits => hcalls.1 hfits.calls, fun hreaches => ?_⟩
  refine ⟨hcalls.2 hreaches, fun ν slots hl => ?_⟩
  have hanswers : ∀ tag ∈ p.reducer.calledTags a.grammar, u.Answers A a.grammar tag :=
    fun tag htag s hs => method?_of_reaches h hnames hs (hreaches tag htag)
  refine ⟨e.spell (Tagged.meaning.spelling slots), ?_, value?_of_retain _ hl he⟩
  rw [Reduction.built?, if_pos hl, built?_spell hl hanswers he]

/-- The function of a production with a call by a private name fails, whatever it is applied to. -/
theorem built?_of_isPrivate (hr : reductionOf g i p = .ok r) {tag : String}
    (htag : tag ∈ p.reducer.calledTags g) (hprivate : IsPrivate (A.methodName tag))
    (slots : List (Tagged ν)) : r.built? A u slots = none := by
  obtain ⟨e, he, rfl⟩ := reductionOf_eq_ok hr
  obtain ⟨call, hcall, hname⟩ := exists_call_of_mem (forall₂_calls he) htag
  rw [Reduction.built?]
  split
  · exact built?_eq_none slots hcall (hname ▸ method?_of_isPrivate hprivate)
  · rfl

end Reductions

/-! ### Rendered documents -/

/-- The definition of a method in the class of the default builder. -/
def definitionLine (m : BuilderMethod) : Source.Line :=
  .code 1 ("def " ++ m.name ++ "(" ++ String.intercalate ", " ("self" :: paramNames m.arity) ++
    "): return (" ++ String.intercalate ", " (literal m.tag :: paramNames m.arity) ++
    (if m.arity = 0 then ",)" else ")"))

/-- The class of the default builder stands among these lines, with a method for every declared tag,
which takes an argument for each parameter that has a value. -/
def DefinesBuilder (g : Declarations) (ls : List Source.Line) : Prop :=
  .code 0 "class DefaultBuilder:" ::
    (if g.methods.entries.isEmpty then [.code 1 "pass"]
      else g.methods.entries.map fun m =>
        definitionLine ⟨interpretedMethod m.1, m.1, m.2.valueArity⟩) <:+: ls

theorem line_eq_definitionLine (m : BuilderMethod) : m.line = definitionLine m := by
  rw [BuilderMethod.line, definitionLine]
  cases hparams : paramNames m.arity with
  | nil =>
      have harity : m.arity = 0 := by simpa [paramNames] using hparams
      simp [harity, ← String.toList_inj]
  | cons p ps =>
      have harity : m.arity ≠ 0 := by
        rintro harity
        simp [harity, paramNames] at hparams
      simp [harity, ← String.toList_inj]

theorem definesBuilder {package : String} {a : Automaton} {u : SourceUnit}
    (h : sourceUnit package a = .ok u) : DefinesBuilder a.grammar u.lines := by
  have hclass : u.builderLines <:+: u.lines := by
    refine ⟨u.headerLines ++ u.actionsLines ++ u.gotosLines ++ u.errorCodesLines ++
      u.reductionsLines, u.goalsLines ++ u.parserLines, ?_⟩
    simp only [SourceUnit.lines, List.append_assoc]
  have hlines : u.methods.map BuilderMethod.line = a.grammar.methods.entries.map fun m =>
      definitionLine ⟨interpretedMethod m.1, m.1, m.2.valueArity⟩ := by
    rw [sourceUnit_methods h, List.map_map]
    exact List.map_congr_left fun m _ => line_eq_definitionLine _
  rw [SourceUnit.builderLines, hlines, sourceUnit_methods h, List.isEmpty_map] at hclass
  exact (List.prefix_append _ [Source.blank, Source.blank]).isInfix.trans hclass

/-- In a rendered document whose methods have distinct names of the language, the function of every
reduction calls the methods of the default builder that is printed with it.

The function fits the builder, so that all calls resolve to the methods of their tags with as many
arguments as these take, and applied to a value for each slot it returns the nested tuples of the
reducer, exactly if all its calls get to their methods. If it calls a method by a private name it
fails, whatever it is applied to. -/
theorem reductions_fit_default_builder_iff (A : Alphabet) (settings : Settings) (a : Automaton)
    (text : String) (h : render settings .interpreted a = .ok text)
    (hnames : A.NamesMethods a.grammar) :
    ∃ u, sourceUnit settings.interpreted.package a = .ok u ∧ text = Source.text u.lines ∧
      DefinesBuilder a.grammar u.lines ∧
      (∀ r ∈ u.reductions, r.WrittenIn u.lines ∧
        ∃ p, a.productions[r.index]? = some p ∧ p.goal = false ∧
          (r.FitsBuilder A u a.grammar p ↔
            ∀ tag ∈ p.reducer.calledTags a.grammar, A.Reaches a.grammar tag) ∧
          ∀ tag ∈ p.reducer.calledTags a.grammar, IsPrivate (A.methodName tag) →
            ∀ (ν : Type) (slots : List (Tagged ν)), r.built? A u slots = none) ∧
      ∀ i p, a.productions[i]? = some p → p.goal = false →
        ∃ r ∈ u.reductions, r.index = i ∧ ∀ other ∈ u.reductions, other.index = i → other = r := by
  obtain ⟨-, u, hu, htext⟩ := render_interpreted_eq_ok_iff.1 h
  refine ⟨u, hu, htext, definesBuilder hu, fun r hmem => ?_, fun i p hp hgoal => ?_⟩
  · obtain ⟨p, hp, hgoal, hr⟩ := production_of_mem_reductions hu hmem
    exact ⟨writtenIn_of_mem hmem, p, hp, hgoal, fitsBuilder_iff hu hnames hr,
      fun tag htag hprivate ν => built?_of_isPrivate hr htag hprivate⟩
  · obtain ⟨r, hmem, hr, hunique⟩ := exists_reduction hu hp hgoal
    obtain ⟨e, -, heq⟩ := reductionOf_eq_ok hr
    exact ⟨r, hmem, by rw [heq], hunique⟩

/-- One reducer calls a method in an argument of another one, and one calls a method with a private
name. One method has a parameter of the unit type, and one has no parameters. -/
def nested : Automaton where
  grammar := {
    nonterminalTypes := .single "Item" (.declared "Item")
    methods := ⟨[("Item 0", .infallible [.option (.declared "Name"), .unit, .token]
      (.declared "Item")), ("unnamed", .infallible [] (.declared "Name")),
      ("__item", .infallible [.token] (.declared "Item"))], by decide⟩
    variableTerminals := ["NUM"] }
  states := [⟨.empty, .empty, none, none⟩]
  productions := [
    ⟨.plain "Item", [.terminal (.symbol "("), .terminal (.symbol "NUM")],
      .call "Item 0" [.some (.call "unnamed" []), .slot 0, .slot 1], false⟩,
    ⟨.plain "Item", [.terminal (.symbol "NUM")], .call "__item" [.slot 0], false⟩]
  goals := .empty

/-- An alphabet without characters beyond ASCII. -/
def ascii : Alphabet := ⟨fun _ _ => false, id⟩

theorem namesMethods_nested : ascii.NamesMethods nested.grammar := by
  have hwords : ∀ tag ∈ nested.grammar.methods.keys, ascii.isWord (interpretedMethod tag) = true ∧
      interpretedMethod tag ∉ keywords ∧ ¬ IsSpecial (ascii.normal (interpretedMethod tag)) := by
    decide
  exact ⟨fun tag htag => ⟨(hwords tag htag).1, (hwords tag htag).2.1, (hwords tag htag).2.2⟩,
    by decide⟩

theorem reaches_nested : ∀ tag ∈ ["Item 0", "unnamed"], ascii.Reaches nested.grammar tag := by
  intro tag htag
  have hprivate : ∀ tag ∈ ["Item 0", "unnamed"], ¬ IsPrivate (ascii.methodName tag) := by decide
  have hspelled : ∀ other ∈ nested.grammar.methods.keys, ∀ tag ∈ ["Item 0", "unnamed"],
      "_DefaultBuilder" ++ ascii.methodName other ≠ ascii.methodName tag := by decide
  refine ⟨hprivate tag htag, fun before after hkeys other hother _ => ?_⟩
  have hmem : other ∈ nested.grammar.methods.keys := by
    rw [hkeys]
    exact List.mem_append_right _ (List.mem_cons_of_mem _ hother)
  exact hspelled other hmem tag htag

/-- Applying the functions of `nested`: the first one returns nested tuples, and the second one
fails. -/
theorem reductions_fit_default_builder_iff_nested :
    (∃ text, render {} .interpreted nested = .ok text) ∧ ascii.NamesMethods nested.grammar ∧
      ∃ u, sourceUnit "lrgen" nested = .ok u ∧
        (∃ r ∈ u.reductions, List.Forall₂ (u.Resolves ascii) ["Item 0", "unnamed"] r.value.calls ∧
          r.built? ascii u [.given 0, .given 1] =
            some (.tuple "Item 0" [.tuple "unnamed" [], .given 1])) ∧
        ∃ r ∈ u.reductions, r.index = 1 ∧ r.built? ascii u [.given 0] = none := by
  obtain ⟨text, h⟩ : ∃ text, render {} .interpreted nested = .ok text :=
    exists_eq_ok_of_isOk (by decide +kernel)
  obtain ⟨u, hu, -, -, hfits, hreductions⟩ :=
    reductions_fit_default_builder_iff ascii {} nested text h namesMethods_nested
  refine ⟨⟨text, h⟩, namesMethods_nested, u, hu, ?_, ?_⟩
  · obtain ⟨r, hmem, hindex, -⟩ := hreductions 0 _ rfl rfl
    obtain ⟨-, p, hp, -, hiff, -⟩ := hfits r hmem
    rw [hindex] at hp
    obtain rfl := Option.some.inj hp
    have hfit := hiff.2 reaches_nested
    obtain ⟨v, hv, hvalue⟩ := hfit.value Nat [.given 0, .given 1] (by decide)
    obtain rfl := Option.some.inj hvalue
    exact ⟨r, hmem, hfit.calls, hv⟩
  · obtain ⟨r, hmem, hindex, -⟩ := hreductions 1 _ rfl rfl
    obtain ⟨-, p, hp, -, -, hfails⟩ := hfits r hmem
    rw [hindex] at hp
    obtain rfl := Option.some.inj hp
    exact ⟨r, hmem, hindex, hfails "__item" (by decide) (by decide) Nat [.given 0]⟩

end ParserTables.Interpreted
