import ParserTables.Proofs.Compiled.Reading
import ParserTables.Proofs.Generation.Rendering

/-!
# Where the tables of the compiled target stand

The lines of a unit that are not indented, and from them that every definition of a table is the
only one with its opening. The names of entries and the imports come from outside, so they are
followed as well.
-/

namespace ParserTables.Compiled

open ParserTables.Grammar ParserTables.Naming ParserTables.Source

/-! ### The lines that are not indented -/

namespace SourceUnit

variable (u : SourceUnit)

theorem toplevel_headerLines :
    u.headerLines.filterMap Line.toplevel? = u.uses.map (fun path => "use " ++ path ++ ";") ++
      ["const ERROR: i64 = 0x" ++ String.ofList (Nat.toDigits 16 u.errorAction) ++ ";"] := by
  simp [headerLines, List.filterMap_cons, toplevel?_code]

theorem toplevel_terminalsLines :
    u.terminalsLines.filterMap Line.toplevel? =
      ["#[derive(Copy, Clone, Debug, PartialEq)]", "pub enum TerminalId \x7b", "\x7d"] := by
  simp [terminalsLines, toplevel?_code, List.filterMap_cons]

theorem toplevel_tokenLines :
    tokenLines.filterMap Line.toplevel? =
      ["#[derive(Clone, Debug, PartialEq)]", "pub struct Token<'a> \x7b", "\x7d",
        "impl Token<'_> \x7b", "\x7d"] := by
  decide

theorem toplevel_separated {γ : Type} {xs : List γ} {block : γ → List Line}
    (h : ∀ x ∈ xs, (block x).filterMap Line.toplevel? = []) :
    (separated (xs.map block)).filterMap Line.toplevel? = [] := by
  induction xs with
  | nil => rfl
  | cons x xs ih =>
      rw [List.forall_mem_cons] at h
      cases xs with
      | nil => exact h.1
      | cons y ys =>
          have hrest := ih h.2
          rw [List.map_cons] at hrest
          simp [separated, h.1, hrest, List.filterMap_cons]

theorem toplevel_actionsLines :
    u.actionsLines.filterMap Line.toplevel? = ["#[rustfmt::skip]",
      "static ACTIONS: [i64; " ++ toString u.actions.length ++ "] = [", "];"] := by
  have hrows : (separated (u.actions.rows.zipIdx.map fun s =>
      actionLines s.2 s.1)).filterMap Line.toplevel? = [] :=
    toplevel_separated fun s _ => by
      simp [actionLines, traceComment, cells, List.filterMap_cons]
  simp [actionsLines, hrows, arrayHead, toplevel?_code, List.filterMap_cons]

theorem toplevel_errorCodesLines :
    u.errorCodesLines.filterMap Line.toplevel? = ["#[derive(Clone, Debug, PartialEq)]",
      "pub enum ErrorCode \x7b", "\x7d",
      "static STATE_TO_ERROR_CODE: [Option<ErrorCode>; " ++ toString u.stateErrors.length ++
        "] = [", "];"] := by
  simp [errorCodesLines, traceComment, arrayHead, toplevel?_code, List.filterMap_cons,
    List.filterMap_flatMap, Function.comp_def]

theorem toplevel_nonterminalsLines :
    u.nonterminalsLines.filterMap Line.toplevel? =
      ["#[derive(Clone, Copy, Debug, PartialEq)]", "pub enum NonterminalId \x7b", "\x7d"] := by
  simp [nonterminalsLines, toplevel?_code, List.filterMap_cons]

theorem toplevel_gotosLines :
    u.gotosLines.filterMap Line.toplevel? = ["#[rustfmt::skip]",
      "static GOTO: [u16; " ++ toString u.gotos.length ++ "] = [", "];"] := by
  simp [gotosLines, arrayHead, cells, toplevel?_code, List.filterMap_cons]

theorem toplevel_dispatcherLines :
    u.dispatcherLines.filterMap Line.toplevel? = ["pub fn reduce<'alloc>(",
      ") -> Result<'alloc, NonterminalId> \x7b", "\x7d"] := by
  simp [dispatcherLines, Arm.lines, toplevel?_code, List.filterMap_cons, List.filterMap_flatMap,
    Function.comp_def]

theorem toplevel_simulatorLines :
    u.simulatorLines.filterMap Line.toplevel? =
      ["static REDUCE_SIMULATOR: [(usize, NonterminalId); " ++ toString u.simulator.length ++
        "] = [", "];"] := by
  simp [simulatorLines, arrayHead, toplevel?_code, List.filterMap_cons]

theorem toplevel_tablesLines :
    u.tablesLines.filterMap Line.toplevel? = ["#[derive(Clone, Copy)]",
      "pub struct ParserTables<'a> \x7b", "\x7d", "impl<'a> ParserTables<'a> \x7b", "\x7d",
      "pub static TABLES: ParserTables<'static> = ParserTables \x7b", "\x7d;"] := by
  simp [tablesLines, tablesTypeLines, toplevel?_code, List.filterMap_cons]

theorem toplevel_entriesLines :
    u.entriesLines.filterMap Line.toplevel? =
      u.entries.map (fun e => "pub static " ++ e.constant ++ ": usize = " ++ toString e.state ++
        ";") ++
      u.entries.flatMap (fun e => ["pub fn " ++ e.function ++ "<'alloc, I>(",
        ") -> Result<'alloc, " ++ e.resultType ++ ">", "where", "\x7b", "\x7d"]) := by
  simp [entriesLines, Entry.constantLines, Entry.functionLines, toplevel?_code, List.filterMap_cons,
    List.filterMap_flatMap, List.map_eq_flatMap]

theorem toplevel_lines :
    u.lines.filterMap Line.toplevel? =
      u.headerLines.filterMap Line.toplevel? ++ u.terminalsLines.filterMap Line.toplevel? ++
        tokenLines.filterMap Line.toplevel? ++ u.actionsLines.filterMap Line.toplevel? ++
        u.errorCodesLines.filterMap Line.toplevel? ++
        u.nonterminalsLines.filterMap Line.toplevel? ++ u.gotosLines.filterMap Line.toplevel? ++
        u.dispatcherLines.filterMap Line.toplevel? ++ u.simulatorLines.filterMap Line.toplevel? ++
        u.tablesLines.filterMap Line.toplevel? ++ u.entriesLines.filterMap Line.toplevel? := by
  simp only [lines, List.filterMap_append]

/-- The openings of the definitions that hold the tables. -/
def tableOpenings : List String :=
  ["pub enum TerminalId \x7b", "static ACTIONS: [i64; ", "pub enum ErrorCode \x7b",
    "static STATE_TO_ERROR_CODE: [Option<ErrorCode>; ", "pub enum NonterminalId \x7b",
    "static GOTO: [u16; ", "static REDUCE_SIMULATOR: [(usize, NonterminalId); ",
    "impl<'a> ParserTables<'a> \x7b",
    "pub static TABLES: ParserTables<'static> = ParserTables \x7b"]

variable {u}

theorem countP_uses {opening : String} (h : opening ∈ tableOpenings) :
    (u.uses.map fun path => "use " ++ path ++ ";").countP (opens opening) = 0 := by
  have hnot : ∀ opening ∈ tableOpenings, ∀ path, opens opening ("use " ++ path ++ ";") = false := by
    simp [tableOpenings, opens]
  rw [List.countP_eq_zero, List.forall_mem_map]
  exact fun path _ => by simp [hnot opening h path]

theorem countP_entries {opening : String} (h : opening ∈ tableOpenings)
    (hentries : ∀ e ∈ u.entries, ∃ goal, e.constant = startStateName goal) :
    (u.entriesLines.filterMap Line.toplevel?).countP (opens opening) = 0 := by
  have hconstant : ∀ opening ∈ tableOpenings, ∀ goal state,
      opens opening ("pub static " ++ startStateName goal ++ ": usize = " ++ state ++ ";") =
        false := by
    simp [tableOpenings, opens, startStateName]
  have hfunction : ∀ opening ∈ tableOpenings, ∀ function result, ∀ t ∈
      ["pub fn " ++ function ++ "<'alloc, I>(", ") -> Result<'alloc, " ++ result ++ ">", "where",
        "\x7b", "\x7d"], opens opening t = false := by
    simp [tableOpenings, opens]
  rw [toplevel_entriesLines, List.countP_eq_zero, List.forall_mem_append, List.forall_mem_map,
    List.forall_mem_flatMap]
  constructor
  · intro e he
    obtain ⟨goal, hgoal⟩ := hentries e he
    simp [hgoal, hconstant opening h]
  · intro e _ t ht
    simp [hfunction opening h _ _ t ht]

theorem openedOnce_lines {opening : String} (h : opening ∈ tableOpenings)
    (hentries : ∀ e ∈ u.entries, ∃ goal, e.constant = startStateName goal) :
    OpenedOnce opening u.lines := by
  rw [OpenedOnce, toplevel_lines, toplevel_headerLines, toplevel_terminalsLines,
    toplevel_tokenLines, toplevel_actionsLines, toplevel_errorCodesLines,
    toplevel_nonterminalsLines, toplevel_gotosLines, toplevel_dispatcherLines,
    toplevel_simulatorLines, toplevel_tablesLines]
  simp only [List.countP_append, countP_uses h, countP_entries h hentries]
  -- The characters of the lines are spelled out once for all openings.
  simp only [countP_opens, List.map_cons, List.map_nil, String.toList_append,
    String.reduceToList]
  simp only [tableOpenings, List.mem_cons, List.not_mem_nil, or_false] at h
  rcases h with rfl | rfl | rfl | rfl | rfl | rfl | rfl | rfl | rfl <;> simp

end SourceUnit

variable {settings : CompiledSettings} {a : Automaton} {u : SourceUnit}

theorem openedOnce (h : sourceUnit settings a = .ok u) {opening : String}
    (hopening : opening ∈ SourceUnit.tableOpenings) : OpenedOnce opening u.lines :=
  SourceUnit.openedOnce_lines hopening fun _ he => exists_goal_of_mem_entries h he

section Lines

variable {opening : String} {n : Nat} {before body after : List Line}

theorem ne_empty_of_mem_tableOpenings (hopening : opening ∈ SourceUnit.tableOpenings) (t : String) :
    opening ++ t ≠ "" := by
  have hne : ∀ opening ∈ SourceUnit.tableOpenings, opening ≠ "" := by decide
  exact fun h => hne opening hopening (String.append_eq_empty_iff.1 h).1

theorem definition?_of_lines_eq {α : Type} {item : Reader α} {as : List α}
    (h : sourceUnit settings a = .ok u) (hopening : opening ∈ SourceUnit.tableOpenings)
    (hbody : Listed slashes .square item as (text body).toList)
    (hlines : u.lines = before ++ .code 0 (opening ++ (toString n ++ "] = [")) ::
      (body ++ .code 0 "];" :: after)) :
    definition? opening (array? item) ';' u.lines = some (n, as) := by
  have honce := openedOnce h hopening
  rw [hlines] at honce ⊢
  exact definition?_array hbody honce (by simp only [String.toList_append])
    (ne_empty_of_mem_tableOpenings hopening _)

theorem block?_of_lines_eq {closing t : String} (h : sourceUnit settings a = .ok u)
    (hopening : opening ∈ SourceUnit.tableOpenings)
    (hlines : u.lines = before ++ .code 0 (opening ++ t) :: (body ++ .code 0 closing :: after))
    (hbody : ∀ line ∈ body, line.toplevel? = none) (hclosing : closing ≠ "") :
    block? opening closing u.lines = some (t.toList, body.filterMap Line.code?) := by
  have honce := openedOnce h hopening
  rw [hlines] at honce ⊢
  exact block?_eq_some honce String.toList_append (ne_empty_of_mem_tableOpenings hopening _) hbody
    hclosing

theorem block?_of_texts_eq {closing t : String} {ts : List String}
    (h : sourceUnit settings a = .ok u) (hopening : opening ∈ SourceUnit.tableOpenings)
    (hlines : u.lines = before ++ .code 0 (opening ++ t) ::
      (ts.map (.code 1) ++ .code 0 closing :: after))
    (hts : ∀ t ∈ ts, t ≠ "") (hclosing : closing ≠ "") :
    block? opening closing u.lines = some (t.toList, ts) := by
  have hcode : (ts.map (Line.code 1)).filterMap Line.code? = ts := by
    rw [List.filterMap_map]
    exact (List.filterMap_congr fun t ht => code?_code (hts t ht) 1).trans List.filterMap_some
  rw [block?_of_lines_eq h hopening hlines (List.forall_mem_map.2 fun _ _ => rfl) hclosing, hcode]

end Lines

end ParserTables.Compiled
