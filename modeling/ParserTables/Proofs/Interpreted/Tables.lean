import ParserTables.Proofs.Check
import ParserTables.Proofs.Generation.Rendering
import ParserTables.Proofs.Interpreted.Reading
import ParserTables.Proofs.Interpreted.ZeroBytes

/-!
# The tables of the interpreted target

Reading the tables of a rendered unit gives back the automaton: its action rows, its error codes
and its goals, in the order of the document. The language refuses source with a zero byte in it,
even in a comment. Traces are shown in comments between the action rows, so the action rows are
refused for a zero byte in a trace, and the source as a whole for one in any text that is written
as it is (`tables_decode_iff`).
-/

namespace ParserTables.Interpreted

open ParserTables.Grammar ParserTables.Source

/-! ### The lines that are not indented -/

namespace SourceUnit

variable (u : SourceUnit)

theorem toplevel_headerLines :
    u.headerLines.filterMap Line.toplevel? = ("from " ++ u.package ++ " import runtime") ::
      (if u.importsErrorToken then ["from " ++ u.package ++ ".runtime import ErrorToken"]
        else []) := by
  simp only [headerLines]
  split <;> simp [toplevel?_code, List.filterMap_cons]

theorem toplevel_actionsLines :
    u.actionsLines.filterMap Line.toplevel? = ["actions = [", "]"] := by
  simp [actionsLines, actionLines, toplevel?_code, List.filterMap_cons, List.filterMap_flatMap]

theorem toplevel_gotosLines : u.gotosLines.filterMap Line.toplevel? = ["ctns = [", "]"] := by
  simp [gotosLines, gotoLine, toplevel?_code, List.filterMap_cons, List.filterMap_map]

theorem toplevel_errorCodesLines :
    u.errorCodesLines.filterMap Line.toplevel? = ["error_codes = [", "]"] := by
  simp [errorCodesLines, toplevel?_code, List.filterMap_cons]

theorem toplevel_reductionsLines :
    u.reductionsLines.filterMap Line.toplevel? = ["reductions = [", "]"] := by
  simp [reductionsLines, Reduction.lines, toplevel?_code, List.filterMap_cons,
    List.filterMap_flatMap]

theorem toplevel_builderLines :
    u.builderLines.filterMap Line.toplevel? = ["class DefaultBuilder:"] := by
  simp only [builderLines]
  split <;> simp [BuilderMethod.line, toplevel?_code, List.filterMap_cons]

theorem toplevel_goalsLines :
    u.goalsLines.filterMap Line.toplevel? = ["goal_nt_to_init_state = \x7b", "\x7d"] := by
  simp [goalsLines, toplevel?_code, List.filterMap_cons]

theorem toplevel_parserLines :
    u.parserLines.filterMap Line.toplevel? = ["class Parser(runtime.Parser):"] := by
  simp [parserLines, toplevel?_code, List.filterMap_cons]

/-- The lines behind the imports that are not indented. -/
def toplevelBody : List String :=
  ["actions = [", "]", "ctns = [", "]", "error_codes = [", "]", "reductions = [", "]",
    "class DefaultBuilder:", "goal_nt_to_init_state = \x7b", "\x7d",
    "class Parser(runtime.Parser):"]

theorem toplevel_lines :
    u.lines.filterMap Line.toplevel? =
      ("from " ++ u.package ++ " import runtime") ::
        ((if u.importsErrorToken then ["from " ++ u.package ++ ".runtime import ErrorToken"]
          else []) ++ toplevelBody) := by
  simp only [lines, List.filterMap_append, toplevel_headerLines, toplevel_actionsLines,
    toplevel_gotosLines, toplevel_errorCodesLines, toplevel_reductionsLines,
    toplevel_builderLines, toplevel_goalsLines, toplevel_parserLines]
  simp [toplevelBody]

/-! ### The tables in the lines of the unit -/

theorem lines_eq_actionsLines : u.lines = u.headerLines ++ u.actionsLines ++
    (u.gotosLines ++ u.errorCodesLines ++ u.reductionsLines ++ u.builderLines ++ u.goalsLines ++
      u.parserLines) := by
  simp only [lines, List.append_assoc]

theorem lines_eq_gotosLines : u.lines = u.headerLines ++ u.actionsLines ++ u.gotosLines ++
    (u.errorCodesLines ++ u.reductionsLines ++ u.builderLines ++ u.goalsLines ++
      u.parserLines) := by
  simp only [lines, List.append_assoc]

theorem lines_eq_errorCodesLines : u.lines =
    u.headerLines ++ u.actionsLines ++ u.gotosLines ++ u.errorCodesLines ++
      (u.reductionsLines ++ u.builderLines ++ u.goalsLines ++ u.parserLines) := by
  simp only [lines, List.append_assoc]

theorem lines_eq_goalsLines : u.lines =
    u.headerLines ++ u.actionsLines ++ u.gotosLines ++ u.errorCodesLines ++ u.reductionsLines ++
      u.builderLines ++ u.goalsLines ++ u.parserLines := rfl

variable {u} {α : Type} {item : Reader α} {as : List α}

theorem openedOnce_lines {opening : String} (h : opening ∈ ["actions = ", "ctns = ",
    "error_codes = ", "goal_nt_to_init_state = "]) : OpenedOnce opening u.lines := by
  rw [OpenedOnce, toplevel_lines]
  simp only [List.mem_cons, List.not_mem_nil, or_false] at h
  rcases h with rfl | rfl | rfl | rfl <;> split <;> simp [opens, toplevelBody]

/-- A table is read in lines where its opening stands once. -/
theorem definition?_of_openedOnce {b : Bracket} {opening t closing : String}
    {before body after : List Line} (hbody : Listed hash b item as (text body).toList)
    (honce : OpenedOnce opening
      (before ++ ([.code 0 t] ++ body ++ [.code 0 closing, blank]) ++ after))
    (ht : t.toList = opening.toList ++ [b.opening]) (hne : t ≠ "")
    (hclosing : closing.toList = [b.closing]) :
    definition? opening (sequence? hash b item) '\n'
      (before ++ ([.code 0 t] ++ body ++ [.code 0 closing, blank]) ++ after) = some as := by
  have hlines : before ++ ([.code 0 t] ++ body ++ [.code 0 closing, blank]) ++ after =
      before ++ .code 0 t :: (body ++ .code 0 closing :: blank :: after) := by
    simp
  rw [hlines] at honce ⊢
  exact definition?_table hbody honce ht hne (by rw [hclosing]; rfl)

end SourceUnit

variable {package : String} {a : Automaton} {u : SourceUnit}

/-! Each table can be read wherever its opening stands once: in the lines of the whole unit, and in
the lines of the table alone. -/

theorem definition?_actions (h : sourceUnit package a = .ok u) {before after : List Line}
    (honce : OpenedOnce "actions = " (before ++ u.actionsLines ++ after)) :
    definition? "actions = " (list? (dictionary? terminal? integer?)) '\n'
      (before ++ u.actionsLines ++ after) = some (a.states.map fun s => s.actions.entries) := by
  obtain ⟨-, -, hactions, -⟩ := sourceUnit_tables h
  have hrows := listed_actions (a.states.map fun s => (s.shownTrace, s.actions.entries))
  rw [List.map_map, List.map_map] at hrows
  rw [SourceUnit.actionsLines, hactions] at honce ⊢
  exact SourceUnit.definition?_of_openedOnce hrows honce rfl (by decide) rfl

theorem definition?_gotos (h : sourceUnit package a = .ok u) :
    definition? "ctns = " (list? (dictionary? text? natural?)) '\n' u.lines =
      some (a.states.map fun s => s.gotos.entries.map fun e => (e.1.pretty, e.2)) := by
  obtain ⟨-, -, -, hgotos, -⟩ := sourceUnit_tables h
  have honce : OpenedOnce "ctns = " u.lines := SourceUnit.openedOnce_lines (by simp)
  rw [← hgotos]
  rw [u.lines_eq_gotosLines] at honce ⊢
  exact SourceUnit.definition?_of_openedOnce (listed_gotos _) honce rfl (by decide) rfl

theorem definition?_errorCodes (h : sourceUnit package a = .ok u) {before after : List Line}
    (honce : OpenedOnce "error_codes = " (before ++ u.errorCodesLines ++ after)) :
    definition? "error_codes = " (list? optionalText?) '\n'
      (before ++ u.errorCodesLines ++ after) = some (a.states.map State.errorCode) := by
  obtain ⟨-, -, -, -, hcodes, -⟩ := sourceUnit_tables h
  rw [← hcodes]
  exact SourceUnit.definition?_of_openedOnce (listed_errorCodes _) honce rfl (by decide) rfl

theorem definition?_goals (h : sourceUnit package a = .ok u) {before after : List Line}
    (honce : OpenedOnce "goal_nt_to_init_state = " (before ++ u.goalsLines ++ after)) :
    definition? "goal_nt_to_init_state = " (dictionary? text? natural?) '\n'
      (before ++ u.goalsLines ++ after) = some (a.goals.entries.map fun g => (g.1.name, g.2)) := by
  obtain ⟨-, -, -, -, -, hgoals⟩ := sourceUnit_tables h
  rw [← hgoals]
  exact SourceUnit.definition?_of_openedOnce (listed_goals _) honce rfl (by decide) rfl

/-- The error token is imported exactly if some row has an action on it. -/
theorem import_mem_lines_iff (h : sourceUnit package a = .ok u) :
    .code 0 ("from " ++ package ++ ".runtime import ErrorToken") ∈ u.lines ↔
      ∃ s ∈ a.states, Terminal.errorToken ∈ s.actions.keys := by
  obtain ⟨rfl, himports, -⟩ := sourceUnit_tables h
  have himport : u.importsErrorToken = true ↔
      ∃ s ∈ a.states, Terminal.errorToken ∈ s.actions.keys := by
    simp [himports, OrderedMap.contains]
  have hhead : ("from " ++ u.package ++ ".runtime import ErrorToken").toList.head? = some 'f' := by
    simp
  have hne : "from " ++ u.package ++ ".runtime import ErrorToken" ≠ "" := by
    intro heq
    rw [heq] at hhead
    cases hhead
  have hbody : "from " ++ u.package ++ ".runtime import ErrorToken" ∉ SourceUnit.toplevelBody := by
    have hall : ∀ t ∈ SourceUnit.toplevelBody, t.toList.head? ≠ some 'f' := by decide
    exact fun hmem => hall _ hmem hhead
  have hruntime : "from " ++ u.package ++ ".runtime import ErrorToken" ≠
      "from " ++ u.package ++ " import runtime" := by
    simp [← String.toList_inj]
  rw [← mem_toplevel hne, u.toplevel_lines, ← himport, List.mem_cons, List.mem_append]
  split
  · next htrue => simp [htrue]
  · next hfalse => simp [hfalse, hbody, hruntime]

theorem nodup_goal_names (h : a.Usable) : (a.goals.keys.map Nonterminal.name).Nodup := by
  refine List.Nodup.map_on (fun x hx y hy heq => h.goalNames x hx y hy ?_) a.nodup_goals
  rw [Automaton.goalName, Automaton.goalName, heq]

/-- The value of the only definition with this opening. Source with a zero byte in it is refused as
a whole. -/
def table? {α : Type} (opening : String) (value? : Reader α) (lines : List Line) : Option α :=
  if HoldsZero (text lines) then none else definition? opening value? '\n' lines

theorem table?_eq_some_iff {α : Type} {opening : String} {value? : Reader α} {lines : List Line}
    {v : α} (h : definition? opening value? '\n' lines = some v) :
    table? opening value? lines = some v ↔ ¬ HoldsZero (text lines) := by
  rw [table?]
  split
  · next hzero => exact iff_of_false nofun (not_not.2 hzero)
  · next hzero => exact iff_of_true h hzero

/-- The tables that are read in these lines are those of the document: the list of the action rows,
the list of the error codes, and the dictionary of the goals. -/
structure HoldsTables (a : Automaton) (ls : List Line) : Prop where
  actions : table? "actions = " (list? (dictionary? terminal? integer?)) ls =
    some (a.states.map fun s => s.actions.entries)
  errorCodes : table? "error_codes = " (list? optionalText?) ls =
    some (a.states.map State.errorCode)
  goals : table? "goal_nt_to_init_state = " (dictionary? text? natural?) ls =
    some (a.goals.entries.map fun g => (g.1.name, g.2))

theorem holdsTables_iff (h : sourceUnit package a = .ok u) :
    HoldsTables a u.lines ↔ ¬ HoldsZeroText package a := by
  have hactions : definition? "actions = " (list? (dictionary? terminal? integer?)) '\n' u.lines =
      some (a.states.map fun s => s.actions.entries) := by
    have honce : OpenedOnce "actions = " u.lines := SourceUnit.openedOnce_lines (by simp)
    rw [u.lines_eq_actionsLines] at honce ⊢
    exact definition?_actions h honce
  have hcodes : definition? "error_codes = " (list? optionalText?) '\n' u.lines =
      some (a.states.map State.errorCode) := by
    have honce : OpenedOnce "error_codes = " u.lines := SourceUnit.openedOnce_lines (by simp)
    rw [u.lines_eq_errorCodesLines] at honce ⊢
    exact definition?_errorCodes h honce
  have hgoals : definition? "goal_nt_to_init_state = " (dictionary? text? natural?) '\n' u.lines =
      some (a.goals.entries.map fun g => (g.1.name, g.2)) := by
    have honce : OpenedOnce "goal_nt_to_init_state = " u.lines :=
      SourceUnit.openedOnce_lines (by simp)
    rw [u.lines_eq_goalsLines] at honce ⊢
    exact definition?_goals h honce
  rw [← holdsZero_lines_iff h]
  exact ⟨fun htables => (table?_eq_some_iff hactions).1 htables.actions, fun hzero =>
    ⟨(table?_eq_some_iff hactions).2 hzero, (table?_eq_some_iff hcodes).2 hzero,
      (table?_eq_some_iff hgoals).2 hzero⟩⟩

/-! ### The tables alone -/

/-- What is read from a table wherever it stands is read from the table alone. -/
theorem definition?_alone {α : Type} {opening : String} {value? : Reader α} {lines : List Line}
    {v : α} (honce : OpenedOnce opening lines)
    (hread : ∀ {before after : List Line}, OpenedOnce opening (before ++ lines ++ after) →
      definition? opening value? '\n' (before ++ lines ++ after) = some v) :
    definition? opening value? '\n' lines = some v := by
  have halone := @hread [] []
  rw [List.nil_append, List.append_nil] at halone
  exact halone honce

theorem table?_actionsLines (h : sourceUnit package a = .ok u) :
    table? "actions = " (list? (dictionary? terminal? integer?)) u.actionsLines =
        some (a.states.map fun s => s.actions.entries) ↔
      ∀ s ∈ a.states, ¬ HoldsZero s.shownTrace := by
  obtain ⟨-, -, hactions, -⟩ := sourceUnit_tables h
  have honce : OpenedOnce "actions = " u.actionsLines := by
    rw [OpenedOnce, SourceUnit.toplevel_actionsLines]
    decide
  rw [table?_eq_some_iff (definition?_alone honce (definition?_actions h)),
    holdsZero_actionsLines, hactions]
  simp

theorem table?_errorCodesLines (h : sourceUnit package a = .ok u) :
    table? "error_codes = " (list? optionalText?) u.errorCodesLines =
      some (a.states.map State.errorCode) := by
  have honce : OpenedOnce "error_codes = " u.errorCodesLines := by
    rw [OpenedOnce, SourceUnit.toplevel_errorCodesLines]
    decide
  exact (table?_eq_some_iff (definition?_alone honce (definition?_errorCodes h))).2
    (not_holdsZero_errorCodesLines u)

theorem table?_goalsLines (h : sourceUnit package a = .ok u) :
    table? "goal_nt_to_init_state = " (dictionary? text? natural?) u.goalsLines =
      some (a.goals.entries.map fun g => (g.1.name, g.2)) := by
  have honce : OpenedOnce "goal_nt_to_init_state = " u.goalsLines := by
    rw [OpenedOnce, SourceUnit.toplevel_goalsLines]
    decide
  exact (table?_eq_some_iff (definition?_alone honce (definition?_goals h))).2
    (not_holdsZero_goalsLines u)

theorem tableLines_infix (u : SourceUnit) : u.actionsLines <:+: u.lines ∧
    u.errorCodesLines <:+: u.lines ∧ u.goalsLines <:+: u.lines :=
  ⟨⟨_, _, u.lines_eq_actionsLines.symm⟩, ⟨_, _, u.lines_eq_errorCodesLines.symm⟩,
    ⟨_, _, u.lines_eq_goalsLines.symm⟩⟩

/-- The tables of a rendered document are those of the document: the list of the action rows, which
are dictionaries with distinct keys, the list of the error codes, and the dictionary of the goals.
Taken alone, the action rows are read back exactly if there is no zero byte in a trace, since traces
are shown among them; the error codes and the goals are always read back. Where the tables stand in
the source, they are read back exactly if no zero byte stands among the texts that are written as
they are, and otherwise nothing is read. The error token is imported exactly if a row has an action
on it. -/
theorem tables_decode_iff {settings : Settings} {a : Automaton} {text : String}
    (h : render settings .interpreted a = .ok text) :
    ∃ u, sourceUnit settings.interpreted.package a = .ok u ∧ text = Source.text u.lines ∧
      (u.actionsLines <:+: u.lines ∧
        (table? "actions = " (list? (dictionary? terminal? integer?)) u.actionsLines =
            some (a.states.map fun s => s.actions.entries) ↔
          ∀ s ∈ a.states, ¬ HoldsZero s.shownTrace)) ∧
      (u.errorCodesLines <:+: u.lines ∧
        table? "error_codes = " (list? optionalText?) u.errorCodesLines =
          some (a.states.map State.errorCode)) ∧
      (u.goalsLines <:+: u.lines ∧
        table? "goal_nt_to_init_state = " (dictionary? text? natural?) u.goalsLines =
          some (a.goals.entries.map fun g => (g.1.name, g.2))) ∧
      (HoldsTables a u.lines ↔ ¬ HoldsZeroText settings.interpreted.package a) ∧
      (HoldsZeroText settings.interpreted.package a →
        ∀ (α : Type) (opening : String) (value? : Reader α),
          table? opening value? u.lines = none) ∧
      (∀ s ∈ a.states, (s.actions.entries.map Prod.fst).Nodup) ∧
      (a.goals.keys.map Nonterminal.name).Nodup ∧
      (.code 0 ("from " ++ settings.interpreted.package ++ ".runtime import ErrorToken") ∈ u.lines ↔
        ∃ s ∈ a.states, Terminal.errorToken ∈ s.actions.keys) := by
  obtain ⟨hcheck, u, hu, htext⟩ := render_interpreted_eq_ok_iff.1 h
  obtain ⟨hactions, hcodes, hgoals⟩ := tableLines_infix u
  refine ⟨u, hu, htext, ⟨hactions, table?_actionsLines hu⟩, ⟨hcodes, table?_errorCodesLines hu⟩,
    ⟨hgoals, table?_goalsLines hu⟩, holdsTables_iff hu, fun hzero α opening value? => ?_,
    fun s _ => s.actions.distinct, nodup_goal_names (a.check_eq_ok_iff.1 hcheck),
    import_mem_lines_iff hu⟩
  rw [table?, if_pos ((holdsZero_lines_iff hu).2 hzero)]

/-- Two states whose symbols and error codes look like names, quotes and escapes. -/
def quoting : Automaton where
  grammar := .empty
  states := [
    ⟨⟨[(.symbol "None", 1), (.endOfInput, -1), (.symbol "it\x27s \x22", 2)], by decide⟩,
      .empty, some "None", none⟩,
    ⟨⟨[(.errorToken, -2), (.symbol "\\n\n\u200b", 3), (.symbol "ErrorToken, ", 4)], by decide⟩,
      .empty, none, some "1\n2"⟩]
  productions := []
  goals := ⟨[(.plain "Start", 1), (.plain "List", 0)], by decide⟩

/-- A state whose trace has a zero byte in it. -/
def zeroed : Automaton where
  grammar := .empty
  states := [⟨.single (.symbol "NUM") 0, .empty, none, some "Item \x00 NUM"⟩]
  productions := []
  goals := .single (.plain "Start") 0

/-- The tables of `quoting`, and those of `zeroed`, which cannot be read. -/
theorem tables_decode_iff_quoting :
    (∃ text, ∃ u : SourceUnit, render {} .interpreted quoting = .ok text ∧
      text = Source.text u.lines ∧
      table? "actions = " (list? (dictionary? terminal? integer?)) u.lines =
        some [[(.symbol "None", 1), (.endOfInput, -1), (.symbol "it\x27s \x22", 2)],
          [(.errorToken, -2), (.symbol "\\n\n\u200b", 3), (.symbol "ErrorToken, ", 4)]] ∧
      table? "error_codes = " (list? optionalText?) u.lines = some [some "None", none] ∧
      table? "goal_nt_to_init_state = " (dictionary? text? natural?) u.lines =
        some [("Start", 1), ("List", 0)] ∧
      .code 0 "from lrgen.runtime import ErrorToken" ∈ u.lines) ∧
    ∃ text, ∃ u : SourceUnit, render {} .interpreted zeroed = .ok text ∧
      text = Source.text u.lines ∧
      table? "actions = " (list? (dictionary? terminal? integer?)) u.lines = none ∧
      table? "actions = " (list? (dictionary? terminal? integer?)) u.actionsLines ≠
        some [[(.symbol "NUM", 0)]] := by
  constructor
  · obtain ⟨text, hrender⟩ : ∃ text, render {} .interpreted quoting = .ok text :=
      exists_eq_ok_of_isOk (by decide +kernel)
    obtain ⟨u, -, htext, -, -, -, hiff, -, -, -, himport⟩ := tables_decode_iff hrender
    have htables : HoldsTables quoting u.lines := hiff.2 (by unfold HoldsZeroText; decide)
    exact ⟨text, u, hrender, htext, htables.actions, htables.errorCodes, htables.goals,
      himport.2 (by decide)⟩
  · obtain ⟨text, hrender⟩ : ∃ text, render {} .interpreted zeroed = .ok text :=
      exists_eq_ok_of_isOk (by decide +kernel)
    obtain ⟨u, -, htext, ⟨-, halone⟩, -, -, -, hnone, -⟩ := tables_decode_iff hrender
    have hzero : ∃ s ∈ zeroed.states, HoldsZero s.shownTrace := by decide
    refine ⟨text, u, hrender, htext, hnone (.inr (.inl hzero)) _ _ _, fun hread => ?_⟩
    obtain ⟨s, hs, hs'⟩ := hzero
    exact halone.1 hread s hs hs'

end ParserTables.Interpreted
