import ParserTables.Proofs.Grammar.Symbol
import ParserTables.Proofs.Interpreted.DefaultBuilder
import ParserTables.Proofs.Interpreted.Quoting
import ParserTables.Proofs.Source.Definition

/-!
# Zero bytes in source of the interpreted target

The language refuses a source as a whole if a zero byte stands in it, be it in a comment. Literals
are visible text, so a zero byte in a symbol, an error code or the name of a goal does not get
there. It does from what is written as it is: the package, the texts of comments and the names of
methods (`holdsZero_lines_iff`).
-/

namespace ParserTables.Interpreted

open ParserTables.Grammar ParserTables.Naming ParserTables.Source ParserTables.Text

/-- There is a zero byte in the text. -/
def HoldsZero (s : String) : Prop := '\x00' ∈ s.toList

instance (s : String) : Decidable (HoldsZero s) := inferInstanceAs (Decidable (_ ∈ _))

/-! ### Texts -/

section Texts

variable {s t : String}

@[simp] theorem holdsZero_append : HoldsZero (s ++ t) ↔ HoldsZero s ∨ HoldsZero t := by
  rw [HoldsZero, String.toList_append, List.mem_append]
  rfl

@[simp] theorem not_holdsZero_literal (s : String) : ¬ HoldsZero (literal s) :=
  fun h => absurd (isVisible_of_mem_literal h) (by decide)

theorem ne_zero_of_mem_decimal {n : Nat} {c : Char} (h : c ∈ decimal n) : c ≠ '\x00' := by
  rintro rfl
  exact absurd (isDigit_of_mem_decimal h) (by decide)

@[simp] theorem not_holdsZero_repr (n : Nat) : ¬ HoldsZero n.repr := by
  intro h
  have hdigits : n.repr.toList = decimal n := toList_toString_nat n
  rw [HoldsZero, hdigits] at h
  exact ne_zero_of_mem_decimal h rfl

theorem not_holdsZero_repr_int (n : Int) : ¬ HoldsZero n.repr := by
  intro h
  have hdigits : n.repr.toList = signedDecimal n := toList_toString_int n
  rw [HoldsZero, hdigits] at h
  cases n with
  | ofNat n => exact ne_zero_of_mem_decimal h rfl
  | negSucc n =>
      obtain h | h := List.mem_cons.1 h
      · cases h
      · exact ne_zero_of_mem_decimal h rfl

/-- A zero byte between separators is a zero byte in one of the parts. -/
theorem exists_holdsZero_of_intercalate {sep : String} (hsep : ¬ HoldsZero sep)
    {ts : List String} (h : HoldsZero (String.intercalate sep ts)) : ∃ t ∈ ts, HoldsZero t := by
  rw [HoldsZero, String.toList_intercalate] at h
  cases ts with
  | nil => cases h
  | cons t ts =>
      rw [List.map_cons, intercalate_cons, List.mem_append, List.mem_flatMap] at h
      obtain h | ⟨cs, hcs, h⟩ := h
      · exact ⟨t, List.mem_cons_self, h⟩
      · obtain ⟨t', ht', rfl⟩ := List.mem_map.1 hcs
        obtain h | h := List.mem_append.1 h
        · exact absurd h hsep
        · exact ⟨t', List.mem_cons_of_mem _ ht', h⟩

@[simp] theorem holdsZero_interpretedMethod (tag : String) :
    HoldsZero (interpretedMethod tag) ↔ HoldsZero tag := by
  rw [HoldsZero, interpretedMethod, String.toList_ofList, replaceChar, List.mem_flatMap]
  constructor
  · rintro ⟨c, hc, h⟩
    split at h
    · exact absurd h (by decide)
    · obtain rfl := List.mem_singleton.1 h
      exact hc
  · exact fun h => ⟨'\x00', h, by decide⟩

/-- No line break is a zero byte. -/
@[simp] theorem holdsZero_flatten (s : String) : HoldsZero (flatten s) ↔ HoldsZero s := by
  rw [HoldsZero, flatten, String.toList_ofList, List.mem_map]
  constructor
  · rintro ⟨c, hc, h⟩
    split at h
    · cases h
    · obtain rfl := h
      exact hc
  · exact fun h => ⟨'\x00', h, by decide⟩

theorem not_holdsZero_paramName (i : Nat) : ¬ HoldsZero (paramName i) := by
  have hletter : ¬ HoldsZero "x" := by decide
  simp [paramName, hletter]

theorem not_holdsZero_of_mem_paramNames {n : Nat} (h : s ∈ paramNames n) : ¬ HoldsZero s := by
  obtain ⟨i, -, rfl⟩ := List.mem_map.1 h
  exact not_holdsZero_paramName i

end Texts

/-! ### Lines -/

section Lines

variable {ls ls' : List Line}

theorem holdsZero_text_iff : HoldsZero (text ls) ↔ ∃ line ∈ ls, HoldsZero line.text := by
  rw [HoldsZero, toList_text, List.mem_flatMap]
  rfl

theorem holdsZero_text_append :
    HoldsZero (text (ls ++ ls')) ↔ HoldsZero (text ls) ∨ HoldsZero (text ls') := by
  rw [HoldsZero, toList_text_append, List.mem_append]
  rfl

/-- A zero byte in lines that stand between two fixed texts. -/
theorem holdsZero_between {before body after : List Line} (hbefore : ¬ HoldsZero (text before))
    (hafter : ¬ HoldsZero (text after)) :
    HoldsZero (text (before ++ body ++ after)) ↔ HoldsZero (text body) := by
  simp only [holdsZero_text_append, hbefore, hafter, false_or, or_false]

theorem holdsZero_indentation (indent : Nat) : ¬ HoldsZero (indentation indent) := by
  rw [HoldsZero, indentation, String.toList_ofList]
  exact fun h => absurd (List.mem_replicate.1 h).2 (by decide)

@[simp] theorem holdsZero_code (indent : Nat) (t : String) :
    HoldsZero (Line.code indent t).text ↔ HoldsZero t := by
  have hbreak : ¬ HoldsZero "\n" := by decide
  rw [Line.text]
  split
  · next h => simp [h, HoldsZero]
  · simp [holdsZero_indentation, hbreak]

@[simp] theorem holdsZero_comment (indent : Nat) (t : String) :
    HoldsZero (Line.comment indent commentMarker t).text ↔ HoldsZero t := by
  have hmarker : ¬ HoldsZero commentMarker := by decide
  have hblank : ¬ HoldsZero " " := by decide
  have hbreak : ¬ HoldsZero "\n" := by decide
  simp [Line.text, holdsZero_indentation, hmarker, hblank, hbreak]

theorem holdsZero_text_flatMap {α : Type} (as : List α) (f : α → List Line) :
    HoldsZero (text (as.flatMap f)) ↔ ∃ a ∈ as, HoldsZero (text (f a)) := by
  simp only [holdsZero_text_iff, List.mem_flatMap]
  exact ⟨fun ⟨line, ⟨a, ha, hline⟩, h⟩ => ⟨a, ha, line, hline, h⟩,
    fun ⟨a, ha, line, hline, h⟩ => ⟨line, ⟨a, ha, hline⟩, h⟩⟩

theorem holdsZero_text_map {α : Type} (as : List α) (f : α → Line) :
    HoldsZero (text (as.map f)) ↔ ∃ a ∈ as, HoldsZero (f a).text := by
  simp [holdsZero_text_iff]

end Lines

/-! ### The parts of a unit -/

section Parts

theorem not_holdsZero_dictionary {entries : List (String × String)}
    (h : ∀ e ∈ entries, ¬ HoldsZero e.1 ∧ ¬ HoldsZero e.2) : ¬ HoldsZero (dictionary entries) := by
  have hentries :
      ¬ HoldsZero (String.intercalate ", " (entries.map fun e => e.1 ++ ": " ++ e.2)) := by
    intro hzero
    obtain ⟨t, ht, hzero⟩ := exists_holdsZero_of_intercalate (by decide) hzero
    obtain ⟨e, he, rfl⟩ := List.mem_map.1 ht
    revert hzero
    simp +decide [h e he]
  simp +decide [dictionary, hentries]

theorem not_holdsZero_key (k : Key) : ¬ HoldsZero k.written := by
  cases k with
  | symbol s => exact not_holdsZero_literal s
  | endOfInput => decide
  | errorToken => decide

theorem not_holdsZero_optionalLiteral (o : Option String) : ¬ HoldsZero (optionalLiteral o) := by
  cases o with
  | none => decide
  | some s => exact not_holdsZero_literal s

theorem holdsZero_actionLines (index : Nat) (state : String × List (Key × Int)) :
    HoldsZero (text (SourceUnit.actionLines index state)) ↔ HoldsZero state.1 := by
  have hrow : ¬ HoldsZero (dictionary (state.2.map fun e => (e.1.written, e.2.repr))) := by
    refine not_holdsZero_dictionary fun e he => ?_
    obtain ⟨e, -, rfl⟩ := List.mem_map.1 he
    exact ⟨not_holdsZero_key e.1, not_holdsZero_repr_int e.2⟩
  simp +decide [SourceUnit.actionLines, holdsZero_text_iff, hrow, blank]

/-- The parameters of a function are no place for a zero byte. -/
theorem not_holdsZero_parameters {first : String} (hfirst : ¬ HoldsZero first) (n : Nat) :
    ¬ HoldsZero (String.intercalate ", " (first :: paramNames n)) := by
  intro h
  obtain ⟨t, ht, hzero⟩ := exists_holdsZero_of_intercalate (by decide) h
  obtain rfl | ht := List.mem_cons.1 ht
  · exact hfirst hzero
  · exact not_holdsZero_of_mem_paramNames ht hzero

theorem holdsZero_line (m : BuilderMethod) : HoldsZero m.line.text ↔ HoldsZero m.name := by
  have hself : ¬ HoldsZero (String.intercalate ", " ("self" :: paramNames m.arity)) :=
    not_holdsZero_parameters (by decide) m.arity
  have htag := not_holdsZero_parameters (not_holdsZero_literal m.tag) m.arity
  rw [line_eq_definitionLine, definitionLine, holdsZero_code]
  split <;> simp +decide [hself, htag]

theorem holdsZero_lines (r : Reduction) :
    HoldsZero (text r.lines) ↔ HoldsZero r.comment ∨ HoldsZero r.value.written := by
  have hbuilder : ¬ HoldsZero (String.intercalate ", " ("builder" :: paramNames r.arity)) :=
    not_holdsZero_parameters (by decide) r.arity
  simp +decide [Reduction.lines, holdsZero_text_iff, hbuilder]

variable (u : SourceUnit)

theorem holdsZero_headerLines : HoldsZero (text u.headerLines) ↔ HoldsZero u.package := by
  rw [SourceUnit.headerLines]
  split <;> simp +decide [holdsZero_text_iff, blank]

theorem holdsZero_actionsLines :
    HoldsZero (text u.actionsLines) ↔ ∃ s ∈ u.actions, HoldsZero s.1 := by
  refine (holdsZero_between (by decide) (by decide)).trans ?_
  simp only [holdsZero_text_flatMap, holdsZero_actionLines]
  conv_rhs => rw [← List.zipIdx_map_fst 0 u.actions]
  simp only [List.mem_map, exists_exists_and_eq_and]

theorem not_holdsZero_gotosLines : ¬ HoldsZero (text u.gotosLines) := by
  refine mt (holdsZero_between (by decide) (by decide)).1 ?_
  rw [holdsZero_text_map]
  rintro ⟨row, -, h⟩
  rw [SourceUnit.gotoLine, holdsZero_code, holdsZero_append] at h
  refine h.elim (not_holdsZero_dictionary fun e he => ?_) (by decide)
  obtain ⟨e, -, rfl⟩ := List.mem_map.1 he
  exact ⟨not_holdsZero_literal e.1, not_holdsZero_repr e.2⟩

theorem not_holdsZero_errorCodesLines : ¬ HoldsZero (text u.errorCodesLines) := by
  refine mt (holdsZero_between (by decide) (by decide)).1 ?_
  rw [holdsZero_text_map]
  rintro ⟨codes, -, h⟩
  obtain ⟨t, ht, h⟩ := exists_holdsZero_of_intercalate (by decide) ((holdsZero_code _ _).1 h)
  obtain ⟨c, -, rfl⟩ := List.mem_map.1 ht
  exact (holdsZero_append.1 h).elim (not_holdsZero_optionalLiteral c) (by decide)

theorem not_holdsZero_goalsLines : ¬ HoldsZero (text u.goalsLines) := by
  refine mt (holdsZero_between (by decide) (by decide)).1 ?_
  rw [holdsZero_text_map]
  rintro ⟨g, -, h⟩
  revert h
  simp +decide

theorem not_holdsZero_parserLines : ¬ HoldsZero (text u.parserLines) := by
  rw [SourceUnit.parserLines, holdsZero_text_iff]
  cases u.defaultGoal <;> simp +decide

theorem holdsZero_builderLines :
    HoldsZero (text u.builderLines) ↔ ∃ m ∈ u.methods, HoldsZero m.name := by
  refine (holdsZero_between (by decide) (by decide)).trans ?_
  by_cases hmethods : u.methods = []
  · rw [hmethods]
    decide
  · have hmethods' : u.methods.isEmpty = false := by simpa using hmethods
    rw [hmethods', if_neg Bool.false_ne_true, holdsZero_text_map]
    exact exists_congr fun m => and_congr_right fun _ => holdsZero_line m

theorem holdsZero_reductionsLines :
    HoldsZero (text u.reductionsLines) ↔
      ∃ r ∈ u.reductions, HoldsZero r.comment ∨ HoldsZero r.value.written := by
  refine (holdsZero_between (by decide) (by decide)).trans ?_
  rw [holdsZero_text_flatMap]
  exact exists_congr fun r => and_congr_right fun _ => holdsZero_lines r

end Parts

/-! ### The unit of a document -/

mutual

/-- The only part of an expression that is not fixed are the names that it calls. -/
theorem exists_call_of_holdsZero : ∀ {v : Value}, HoldsZero v.written →
    ∃ call ∈ v.calls, HoldsZero call.1
  | .param i, h => by
      rw [Value.written] at h
      exact absurd h (not_holdsZero_paramName i)
  | .none, h => by
      rw [Value.written] at h
      exact absurd h (by decide)
  | .call method args, h => by
      rw [Value.written] at h
      rw [Value.calls]
      by_cases hmethod : HoldsZero method
      · exact ⟨_, List.mem_cons_self, hmethod⟩
      · have hargs : HoldsZero (String.intercalate ", " (Value.writtenList args)) := by
          simpa +decide [hmethod] using h
        obtain ⟨s, hs, hzero⟩ := exists_holdsZero_of_intercalate (by decide) hargs
        obtain ⟨call, hcall, hname⟩ := exists_call_of_holdsZero_writtenList hs hzero
        exact ⟨call, List.mem_cons_of_mem _ hcall, hname⟩

theorem exists_call_of_holdsZero_writtenList : ∀ {vs : List Value} {s : String},
    s ∈ Value.writtenList vs → HoldsZero s → ∃ call ∈ Value.callsOfList vs, HoldsZero call.1
  | v :: vs, s, hs, h => by
      rw [Value.writtenList, List.mem_cons] at hs
      rw [Value.callsOfList]
      obtain rfl | hs := hs
      · obtain ⟨call, hcall, hname⟩ := exists_call_of_holdsZero h
        exact ⟨call, List.mem_append_left _ hcall, hname⟩
      · obtain ⟨call, hcall, hname⟩ := exists_call_of_holdsZero_writtenList hs h
        exact ⟨call, List.mem_append_right _ hcall, hname⟩

end

/-- There is a zero byte among the texts of a document that are written as they are: in the package,
the trace of a state, the text of a production that is no goal, or the tag of a method. -/
def HoldsZeroText (package : String) (a : Automaton) : Prop :=
  HoldsZero package ∨ (∃ s ∈ a.states, HoldsZero s.shownTrace) ∨
    (∃ p ∈ a.productions, p.goal = false ∧ HoldsZero p.display) ∨
    ∃ tag ∈ a.grammar.methods.keys, HoldsZero tag

section Documents

variable {package : String} {a : Automaton} {u : SourceUnit}

theorem holdsZero_unit : HoldsZero (text u.lines) ↔
    HoldsZero u.package ∨ (∃ s ∈ u.actions, HoldsZero s.1) ∨
      (∃ r ∈ u.reductions, HoldsZero r.comment ∨ HoldsZero r.value.written) ∨
      ∃ m ∈ u.methods, HoldsZero m.name := by
  simp only [SourceUnit.lines, holdsZero_text_append, holdsZero_headerLines,
    holdsZero_actionsLines, not_holdsZero_gotosLines, not_holdsZero_errorCodesLines,
    holdsZero_reductionsLines, holdsZero_builderLines, not_holdsZero_goalsLines,
    not_holdsZero_parserLines, or_false, or_assoc]

/-- What is called with a zero byte in its name is a declared method. -/
theorem exists_tag_of_holdsZero {i : Nat} {p : Production} {r : Reduction}
    (hr : reductionOf a.grammar i p = .ok r) (h : HoldsZero r.value.written) :
    ∃ tag ∈ a.grammar.methods.keys, HoldsZero tag := by
  obtain ⟨e, he, rfl⟩ := reductionOf_eq_ok hr
  obtain ⟨call, hcall, hname⟩ := exists_call_of_holdsZero h
  obtain ⟨tag, htag, heq⟩ := exists_method_of_mem (forall₂_calls he) hcall
  rw [heq, holdsZero_interpretedMethod] at hname
  exact ⟨tag, htag, hname⟩

theorem holdsZero_lines_iff (h : sourceUnit package a = .ok u) :
    HoldsZero (text u.lines) ↔ HoldsZeroText package a := by
  obtain ⟨rfl, -, hactions, -⟩ := sourceUnit_tables h
  have htraces : (∃ s ∈ u.actions, HoldsZero s.1) ↔ ∃ s ∈ a.states, HoldsZero s.shownTrace := by
    rw [hactions]
    simp only [List.mem_map, exists_exists_and_eq_and]
  have hmethods : (∃ m ∈ u.methods, HoldsZero m.name) ↔
      ∃ tag ∈ a.grammar.methods.keys, HoldsZero tag := by
    rw [sourceUnit_methods h, OrderedMap.keys]
    simp only [List.mem_map, exists_exists_and_eq_and, builderMethod, holdsZero_interpretedMethod]
  rw [holdsZero_unit, htraces, hmethods, HoldsZeroText]
  refine or_congr_right (or_congr_right ⟨?_, ?_⟩)
  · rintro (⟨r, hmem, hzero⟩ | hzero)
    · obtain ⟨p, hp, hgoal, hr⟩ := production_of_mem_reductions h hmem
      obtain hcomment | hvalue := hzero
      · obtain ⟨e, -, heq⟩ := reductionOf_eq_ok hr
        rw [heq] at hcomment
        exact .inl ⟨p, List.mem_of_getElem? hp, hgoal, hcomment⟩
      · exact .inr (exists_tag_of_holdsZero hr hvalue)
    · exact .inr hzero
  · rintro (⟨p, hmem, hgoal, hzero⟩ | hzero)
    · obtain ⟨i, hp⟩ := List.mem_iff_getElem?.1 hmem
      obtain ⟨r, hr, hreduction, -⟩ := exists_reduction h hp hgoal
      obtain ⟨e, -, rfl⟩ := reductionOf_eq_ok hreduction
      exact .inl ⟨_, hr, .inl hzero⟩
    · exact .inr hzero

end Documents

end ParserTables.Interpreted
