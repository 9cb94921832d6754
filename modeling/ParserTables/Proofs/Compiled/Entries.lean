import ParserTables.Proofs.Check
import ParserTables.Proofs.Compiled.Tables
import ParserTables.Proofs.Naming.Casing

/-!
# Entry points

Every goal has a function, and the function hands the runtime the constant of the goal. The names
of the functions are distinct, because the checks keep the snake forms of the goals apart. The
constants are named by the snake forms in upper case, which the checks do not compare: they are
distinct exactly if upper case merges none of the snake forms.
-/

namespace ParserTables

open ParserTables.Grammar ParserTables.Naming ParserTables.Source ParserTables.Text

/-- Snake forms of goals are the same if they are the same in upper case. -/
def Automaton.GoalsApartInUpperCase (a : Automaton) : Prop :=
  ∀ goal ∈ a.goals.keys, ∀ other ∈ a.goals.keys,
    upper (snakeChars goal.name.toList) = upper (snakeChars other.name.toList) →
      snakeChars goal.name.toList = snakeChars other.name.toList

/-- Snake forms that upper case keeps are apart in upper case. -/
theorem Automaton.goalsApartInUpperCase_of_lower_upper {a : Automaton}
    (h : ∀ goal ∈ a.goals.keys,
      lower (upper (snakeChars goal.name.toList)) = snakeChars goal.name.toList) :
    a.GoalsApartInUpperCase := by
  intro goal hgoal other hother heq
  rw [← h goal hgoal, heq, h other hother]

theorem nodup_startStateName_iff {a : Automaton} (husable : a.Usable) :
    (a.goals.keys.map startStateName).Nodup ↔ a.GoalsApartInUpperCase := by
  rw [List.nodup_map_iff_inj_on a.nodup_goals]
  constructor
  · intro h goal hgoal other hother heq
    rw [h goal hgoal other hother (by rw [startStateName, startStateName, heq])]
  · intro h goal hgoal other hother heq
    have hupper := String.ofList_injective ((String.append_right_inj _).1 heq)
    refine husable.goalNames goal hgoal other hother ?_
    rw [Automaton.goalName, Automaton.goalName, snake, snake, h goal hgoal other hother hupper]

namespace Compiled

/-- The declarations of entry states. -/
def startConstants (lines : List Line) : List String :=
  (lines.filterMap Line.toplevel?).filter (opens "pub static START_STATE_")

/-- The line that hands a constant to the runtime. -/
def runtimeCall (runtimeParse constant : String) : String :=
  "let value = " ++ runtimeParse ++ "(handler, &TABLES, " ++ constant ++ ", tokens)?;"

/-- The functions that parse: what follows `parse_` in their heads, and the line that binds the
first value in what comes after the head. -/
def parseFunctions (lines : List Line) : List (List Char × Option String) :=
  (openings "pub fn parse_" lines).map fun o =>
    (o.1, (o.2.filterMap Line.code?).find? (opens "let value = "))

/-- The entry points in the lines of a unit: a constant and a function for each goal, in the order
of the goals. The value of the constant is the entry state of the goal, and the function hands the
constant to the runtime. No two functions have the same name. -/
structure HasEntryPoints (settings : CompiledSettings) (a : Automaton) (lines : List Line) :
    Prop where
  constants : startConstants lines = a.goals.entries.map fun goal =>
    "pub static " ++ startStateName goal.1 ++ ": usize = " ++ toString goal.2 ++ ";"
  functions : parseFunctions lines = a.goals.keys.map fun goal =>
    ((snake goal.name ++ "<'alloc, I>(").toList,
      some (runtimeCall settings.runtimeParse (startStateName goal)))
  distinct : ((parseFunctions lines).map Prod.fst).Nodup

variable {settings : CompiledSettings} {a : Automaton} {u : SourceUnit}

namespace SourceUnit

variable (u)

/-- The lines before the entry points. -/
def tables : List Line :=
  u.headerLines ++ u.terminalsLines ++ tokenLines ++ u.actionsLines ++ u.errorCodesLines ++
    u.nonterminalsLines ++ u.gotosLines ++ u.dispatcherLines ++ u.simulatorLines ++ u.tablesLines

theorem not_opens_tables {opening : String}
    (h : opening ∈ ["pub static START_STATE_", "pub fn parse_"]) :
    ∀ t ∈ u.tables.filterMap Line.toplevel?, opens opening t = false := by
  simp only [tables, List.filterMap_append, toplevel_headerLines, toplevel_terminalsLines,
    toplevel_tokenLines, toplevel_actionsLines, toplevel_errorCodesLines,
    toplevel_nonterminalsLines, toplevel_gotosLines, toplevel_dispatcherLines,
    toplevel_simulatorLines, toplevel_tablesLines, List.forall_mem_append, List.forall_mem_map,
    List.forall_mem_cons, List.not_mem_nil, String.append_assoc]
  simp only [List.mem_cons, List.not_mem_nil, or_false] at h
  rcases h with rfl | rfl <;>
    simp (disch := simp) only [opens_eq_false, implies_true, false_implies, and_true]

variable {u}

/-- The declarations of entry states are those of the entries. -/
theorem startConstants_lines
    (hentries : ∀ e ∈ u.entries, ∃ goal, e.constant = startStateName goal) :
    startConstants u.lines = u.entries.map fun e =>
      "pub static " ++ e.constant ++ ": usize = " ++ toString e.state ++ ";" := by
  have htables :
      (u.tables.filterMap Line.toplevel?).filter (opens "pub static START_STATE_") = [] :=
    List.filter_eq_nil_iff.2 fun t ht => Bool.eq_false_iff.1 (u.not_opens_tables (by simp) t ht)
  have hlines : u.lines = u.tables ++ u.entriesLines := rfl
  rw [startConstants, hlines, List.filterMap_append, List.filter_append, htables, List.nil_append,
    toplevel_entriesLines, List.filter_append, List.filter_eq_self.2, List.filter_eq_nil_iff.2,
    List.append_nil]
  · rw [List.forall_mem_flatMap]
    intro e _
    simp (disch := simp) [opens_eq_false]
  · rw [List.forall_mem_map]
    intro e he
    obtain ⟨goal, hgoal⟩ := hentries e he
    simp [opens, hgoal, startStateName]

end SourceUnit

section Function

variable (handler runtimeParse : String) (e : Entry)

theorem not_opens_tail_functionLines :
    ∀ t ∈ (e.functionLines handler runtimeParse).tail.filterMap Line.toplevel?,
      opens "pub fn parse_" t = false := by
  simp (disch := simp) [Entry.functionLines, toplevel?_code, List.filterMap_cons, opens_eq_false]

/-- The first value that is bound in a function is the result of the runtime. -/
theorem find?_tail_functionLines (rest : List Line) :
    (((e.functionLines handler runtimeParse).tail ++ rest).filterMap Line.code?).find?
        (opens "let value = ") =
      some (runtimeCall runtimeParse e.constant) := by
  have hopens : opens "let value = " ("let value = " ++ runtimeParse ++ "(handler, &TABLES, " ++
      e.constant ++ ", tokens)?;") = true := by
    simp [opens]
  simp (disch := simp) [runtimeCall, Entry.functionLines, code?_code, List.filterMap_cons,
    opens_eq_false, hopens]

theorem parseFunctions_functionLines_append {name : String} (hname : e.function = "parse_" ++ name)
    (rest : List Line) :
    parseFunctions (e.functionLines handler runtimeParse ++ rest) =
      ((name ++ "<'alloc, I>(").toList, some (runtimeCall runtimeParse e.constant)) ::
        parseFunctions rest := by
  have hhead : (Line.code 0 ("pub fn " ++ e.function ++ "<'alloc, I>(")).after? "pub fn parse_" =
      some (name ++ "<'alloc, I>(").toList :=
    after?_eq_some (by simp [hname]) (by simp)
  have hlines : e.functionLines handler runtimeParse ++ rest =
      .code 0 ("pub fn " ++ e.function ++ "<'alloc, I>(") ::
        ((e.functionLines handler runtimeParse).tail ++ rest) := rfl
  rw [hlines, parseFunctions, openings, hhead]
  rw [List.map_cons, find?_tail_functionLines,
    openings_append_of_not_opens _ (not_opens_tail_functionLines _ _ _), parseFunctions]

end Function

theorem nonterminalSnake_of_args_eq_nil {nt : Nonterminal} (h : nt.args = []) :
    nonterminalSnake nt = snake nt.name := by
  rw [nonterminalSnake, h]
  exact String.append_empty

theorem parseFunctions_of_mapM {g : Declarations} {goals : List (Nonterminal × Nat)}
    {entries : List Entry} (h : goals.mapM (entryOf settings g) = .ok entries)
    (hargs : ∀ goal ∈ goals, goal.1.args = []) :
    parseFunctions (entries.flatMap (Entry.functionLines settings.handler settings.runtimeParse)) =
      goals.map fun goal => ((snake goal.1.name ++ "<'alloc, I>(").toList,
        some (runtimeCall settings.runtimeParse (startStateName goal.1))) := by
  induction goals generalizing entries with
  | nil =>
      obtain rfl := mapM_nil_eq_ok.1 h
      rfl
  | cons goal goals ih =>
      obtain ⟨e, es, he, hes, rfl⟩ := mapM_cons_eq_ok.1 h
      obtain ⟨type, rfl⟩ := entryOf_eq_ok he
      rw [List.forall_mem_cons] at hargs
      rw [List.flatMap_cons, parseFunctions_functionLines_append _ _ _ rfl, ih hes hargs.2,
        List.map_cons, nonterminalSnake_of_args_eq_nil hargs.1]

theorem not_opens_constantLines (entries : List Entry) :
    ∀ t ∈ (entries.flatMap Entry.constantLines).filterMap Line.toplevel?,
      opens "pub fn parse_" t = false := by
  rw [List.filterMap_flatMap, List.forall_mem_flatMap]
  intro e _
  simp (disch := simp) [Entry.constantLines, toplevel?_code, List.filterMap_cons, opens_eq_false]

/-- Every goal has a function, which hands its constant to the runtime. -/
theorem parseFunctions_lines (h : sourceUnit settings a = .ok u)
    (hargs : ∀ goal ∈ a.goals.entries, goal.1.args = []) :
    parseFunctions u.lines = a.goals.keys.map fun goal =>
      ((snake goal.name ++ "<'alloc, I>(").toList,
        some (runtimeCall settings.runtimeParse (startStateName goal))) := by
  have hlines : u.lines = u.tables ++ (u.entries.flatMap Entry.constantLines ++
      u.entries.flatMap (Entry.functionLines u.handler u.runtimeParse)) := rfl
  obtain ⟨-, hhandler, hruntime⟩ := sourceUnit_settings h
  rw [hlines, parseFunctions,
    openings_append_of_not_opens _ (u.not_opens_tables (by simp)),
    openings_append_of_not_opens _ (not_opens_constantLines _), ← parseFunctions, hhandler,
    hruntime, parseFunctions_of_mapM (sourceUnit_eq_ok h).2.2 hargs, OrderedMap.keys, List.map_map]
  rfl

/-- The entry points of a unit are those of the goals. -/
theorem hasEntryPoints_of_sourceUnit (h : sourceUnit settings a = .ok u) (husable : a.Usable) :
    HasEntryPoints settings a u.lines := by
  have hfunctions := parseFunctions_lines h fun goal hgoal => (husable.goals goal hgoal).1
  refine ⟨?_, hfunctions, ?_⟩
  · rw [SourceUnit.startConstants_lines fun e he => exists_goal_of_mem_entries h he]
    refine map_of_mapM (fun goal e he => ?_) (sourceUnit_eq_ok h).2.2
    obtain ⟨type, rfl⟩ := entryOf_eq_ok he
    rfl
  · rw [hfunctions, List.map_map]
    refine List.Nodup.map_on (fun goal hgoal other hother heq => ?_) a.nodup_goals
    simp only [Function.comp_apply, String.toList_inj, String.append_left_inj] at heq
    exact husable.goalNames goal hgoal other hother heq

/-- Every goal of a rendered document has a function with a name of its own, which hands the
constant of the goal to the runtime, and the constant holds the entry state of the goal. The names
of the constants are distinct exactly if upper case merges no two snake forms of goals, and they
are if the goals have ASCII names. -/
theorem start_constants_distinct_iff (settings : Settings) (a : Automaton) (text : String)
    (h : render settings .compiled a = .ok text) :
    ∃ u, sourceUnit settings.compiled a = .ok u ∧ text = Source.text u.lines ∧
      HasEntryPoints settings.compiled a u.lines ∧
      ((a.goals.keys.map startStateName).Nodup ↔ a.GoalsApartInUpperCase) ∧
      ((∀ goal ∈ a.goals.keys, ∀ c ∈ goal.name.toList, isAscii c = true) →
        (a.goals.keys.map startStateName).Nodup) := by
  obtain ⟨hcheck, u, hu, htext⟩ := render_compiled_eq_ok_iff.1 h
  have husable := a.check_eq_ok_iff.1 hcheck
  have hnodup := nodup_startStateName_iff husable
  refine ⟨u, hu, htext, hasEntryPoints_of_sourceUnit hu husable, hnodup, fun hascii => hnodup.2 ?_⟩
  exact Automaton.goalsApartInUpperCase_of_lower_upper fun goal hgoal =>
    lower_upper_snakeChars (hascii goal hgoal)

/-- Two goals whose snake forms are different and the same in upper case. -/
def sharp : Automaton where
  grammar := {
    nonterminalTypes := ⟨[("ß", .declared "Item"), ("ss", .declared "Item")], by decide⟩
    methods := .empty
    variableTerminals := [] }
  states := [⟨.empty, .empty, none, none⟩, ⟨.empty, .empty, none, none⟩]
  productions := []
  goals := ⟨[(.plain "ß", 0), (.plain "ss", 1)], by decide⟩

/-- `sharp` declares one constant for both of its goals, with two values. -/
theorem start_constants_distinct_iff_sharp :
    (∃ text, render {} .compiled sharp = .ok text) ∧
      ∃ u, sourceUnit {} sharp = .ok u ∧
        startConstants u.lines = ["pub static START_STATE_SS: usize = 0;",
          "pub static START_STATE_SS: usize = 1;"] ∧
        ¬ (sharp.goals.keys.map startStateName).Nodup ∧ ¬ sharp.GoalsApartInUpperCase := by
  obtain ⟨text, h⟩ : ∃ text, render {} .compiled sharp = .ok text :=
    exists_eq_ok_of_isOk (by decide +kernel)
  obtain ⟨u, hu, -, hentries, hnodup, -⟩ := start_constants_distinct_iff {} sharp text h
  have hnot : ¬ (sharp.goals.keys.map startStateName).Nodup := by decide +kernel
  exact ⟨⟨text, h⟩, u, hu, hentries.constants.trans (by decide +kernel), hnot, mt hnodup.2 hnot⟩

end Compiled

end ParserTables
