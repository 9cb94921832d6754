import ParserTables.Proofs.Check
import ParserTables.Proofs.Compiled.Layout

/-!
# The flat tables of the compiled target

Reading the static arrays of a rendered unit gives back the automaton.
-/

namespace ParserTables.Compiled

open ParserTables.Grammar ParserTables.Naming ParserTables.Source

/-! ### The definitions in the lines of the unit -/

/-- What follows the opening of a static array on its line: the declared length, and the bracket. -/
def declared (length : Nat) : List Char := (toString length).toList ++ "] = [".toList

variable {settings : CompiledSettings} {a : Automaton} {u : SourceUnit}

theorem definition?_actions (h : sourceUnit settings a = .ok u) :
    definition? "static ACTIONS: [i64; " (array? action?) ';' u.lines =
      some (a.states.length * a.terminals.length,
        a.states.flatMap fun s => a.terminals.map s.actions.get?) := by
  obtain ⟨-, hactions, -⟩ := sourceUnit_tables h
  have hlines : u.lines = (u.headerLines ++ u.terminalsLines ++ tokenLines ++
        [Line.code 0 "#[rustfmt::skip]"]) ++
      Line.code 0 ("static ACTIONS: [i64; " ++ (toString u.actions.length ++ "] = [")) ::
      (SourceUnit.separated (u.actions.rows.zipIdx.map fun s => SourceUnit.actionLines s.2 s.1) ++
      Line.code 0 "];" :: (blank :: (u.errorCodesLines ++ u.nonterminalsLines ++ u.gotosLines ++
        u.dispatcherLines ++ u.simulatorLines ++ u.tablesLines ++ u.entriesLines))) := by
    simp [SourceUnit.lines, SourceUnit.actionsLines, arrayHead, String.append_assoc]
  rw [definition?_of_lines_eq h (by simp [SourceUnit.tableOpenings]) (listed_actionRows _) hlines,
    hactions, List.flatMap_map]

theorem definition?_gotos (h : sourceUnit settings a = .ok u) :
    definition? "static GOTO: [u16; " (array? natural?) ';' u.lines =
      some (a.states.length * a.liveNonterminals.length,
        a.states.flatMap fun s => a.liveNonterminals.map fun nt => (s.gotos.get? nt).getD 0) := by
  obtain ⟨-, -, -, -, -, hgotos, -⟩ := sourceUnit_tables h
  have hlines : u.lines = (u.headerLines ++ u.terminalsLines ++ tokenLines ++ u.actionsLines ++
        u.errorCodesLines ++ u.nonterminalsLines ++ [Line.code 0 "#[rustfmt::skip]"]) ++
      Line.code 0 ("static GOTO: [u16; " ++ (toString u.gotos.length ++ "] = [")) ::
      (u.gotos.rows.map (fun row => cells (row.map fun n => toString n)) ++
      Line.code 0 "];" :: (blank :: (u.dispatcherLines ++ u.simulatorLines ++ u.tablesLines ++
        u.entriesLines))) := by
    simp [SourceUnit.lines, SourceUnit.gotosLines, arrayHead, String.append_assoc]
  rw [definition?_of_lines_eq h (by simp [SourceUnit.tableOpenings]) (listed_gotoRows _) hlines,
    hgotos, List.flatMap_map]
  rfl

/-- The lines of code among comments, one for each element. -/
theorem filterMap_code?_flatMap {γ : Type} {xs : List γ} {comment : γ → Line} {w : γ → String}
    (hcomment : ∀ x ∈ xs, (comment x).code? = none) (hw : ∀ x ∈ xs, w x ≠ "") (indent : Nat) :
    (xs.flatMap fun x => [comment x, .code indent (w x)]).filterMap Line.code? = xs.map w := by
  induction xs with
  | nil => rfl
  | cons x xs ih =>
      rw [List.forall_mem_cons] at hcomment hw
      rw [List.flatMap_cons, List.filterMap_append, ih hcomment.2 hw.2]
      simp [hcomment.1, code?_code hw.1]

theorem writtenErrorCode_ne_empty : ∀ o, writtenErrorCode o ≠ ""
  | none => by decide
  | some variant => fun h => absurd (String.append_eq_empty_iff.1 h).2 (by decide)

/-- Where the array of the error codes of states stands. -/
theorem lines_eq_stateErrors (u : SourceUnit) : ∃ before after, u.lines = before ++
    Line.code 0 ("static STATE_TO_ERROR_CODE: [Option<ErrorCode>; " ++
      (toString u.stateErrors.length ++ "] = [")) ::
    ((u.stateErrors.rows.zipIdx.flatMap fun s =>
      [traceComment s.1.1 s.2, Line.code 1 (writtenErrorCode s.1.2)]) ++
    Line.code 0 "];" :: after) := by
  refine ⟨u.headerLines ++ u.terminalsLines ++ tokenLines ++ u.actionsLines ++
      [Line.code 0 "#[derive(Clone, Debug, PartialEq)]", Line.code 0 "pub enum ErrorCode \x7b"] ++
      u.errorVariants.map (fun v => Line.code 1 (v ++ ",")) ++ [Line.code 0 "\x7d", blank],
    blank :: (u.nonterminalsLines ++ u.gotosLines ++ u.dispatcherLines ++ u.simulatorLines ++
      u.tablesLines ++ u.entriesLines), ?_⟩
  simp [SourceUnit.lines, SourceUnit.errorCodesLines, arrayHead, String.append_assoc]
  rfl

theorem block?_stateErrors (h : sourceUnit settings a = .ok u) :
    block? "static STATE_TO_ERROR_CODE: [Option<ErrorCode>; " "];" u.lines =
      some (declared a.states.length,
        a.states.map fun s => writtenErrorCode (s.errorCode.map camel)) := by
  obtain ⟨-, -, -, herrors, -⟩ := sourceUnit_tables h
  obtain ⟨before, after, hlines⟩ := lines_eq_stateErrors u
  have hinside : ∀ line ∈ u.stateErrors.rows.zipIdx.flatMap fun s =>
      [traceComment s.1.1 s.2, Line.code 1 (writtenErrorCode s.1.2)], line.toplevel? = none := by
    rw [List.forall_mem_flatMap]
    simp [traceComment]
  rw [block?_of_lines_eq h (by simp [SourceUnit.tableOpenings]) hlines hinside (by decide),
    filterMap_code?_flatMap (fun _ _ => rfl) (fun _ _ => writtenErrorCode_ne_empty _),
    map_zipIdx_fst u.stateErrors.rows fun r => writtenErrorCode r.2, herrors, List.map_map,
    declared, String.toList_append]
  rfl

/-- Read as an array, the error codes of the states are their variants, if these are names. -/
theorem definition?_stateErrors (h : sourceUnit settings a = .ok u)
    (hnames : ∀ code ∈ a.errorCodes, IsVariantName (camel code)) :
    definition? "static STATE_TO_ERROR_CODE: [Option<ErrorCode>; " (array? errorCode?) ';' u.lines =
      some (a.states.length, a.states.map fun s => s.errorCode.map camel) := by
  obtain ⟨-, -, -, herrors, -⟩ := sourceUnit_tables h
  obtain ⟨before, after, hlines⟩ := lines_eq_stateErrors u
  have hrows : ∀ row ∈ u.stateErrors.rows, ∀ variant ∈ row.2, IsVariantName variant := by
    rw [herrors, List.forall_mem_map]
    intro s hs variant hvariant
    obtain ⟨code, hcode, rfl⟩ := Option.map_eq_some_iff.1 hvariant
    exact hnames code (List.mem_filterMap.2 ⟨s, hs, hcode⟩)
  rw [definition?_of_lines_eq h (by simp [SourceUnit.tableOpenings]) (listed_stateErrorRows hrows)
    hlines, herrors, List.map_map]
  rfl

/-- Where the array of reductions stands. -/
theorem lines_eq_simulator (u : SourceUnit) : ∃ before after, u.lines = before ++
    Line.code 0 ("static REDUCE_SIMULATOR: [(usize, NonterminalId); " ++
      (toString u.simulator.length ++ "] = [")) ::
    ((u.simulator.rows.map fun r =>
      "(" ++ toString r.pops ++ ", NonterminalId::" ++ r.result ++ "),").map (Line.code 1) ++
    Line.code 0 "];" :: after) := by
  refine ⟨u.headerLines ++ u.terminalsLines ++ tokenLines ++ u.actionsLines ++ u.errorCodesLines ++
    u.nonterminalsLines ++ u.gotosLines ++ u.dispatcherLines,
    blank :: (u.tablesLines ++ u.entriesLines), ?_⟩
  simp [SourceUnit.lines, SourceUnit.simulatorLines, arrayHead, String.append_assoc]

theorem block?_simulator (h : sourceUnit settings a = .ok u) :
    block? "static REDUCE_SIMULATOR: [(usize, NonterminalId); " "];" u.lines =
      some (declared (liveProductions a).length,
        (liveProductions a).map fun p =>
          "(" ++ toString p.1.slotCount ++ ", NonterminalId::" ++ nonterminalCamel p.1.nt ++
            "),") := by
  obtain ⟨-, hsim, -⟩ := sourceUnit_eq_ok h
  obtain ⟨before, after, hlines⟩ := lines_eq_simulator u
  rw [block?_of_texts_eq h (by simp [SourceUnit.tableOpenings]) hlines
    (List.forall_mem_map.2 fun _ _ => by simp) (by decide), hsim, List.map_map, declared,
    String.toList_append]
  rfl

/-- Read as an array, the reductions are the numbers of slots and the variants of the nonterminals,
if these are names. -/
theorem definition?_simulator (h : sourceUnit settings a = .ok u)
    (hnames : ∀ nt ∈ a.liveNonterminals, IsVariantName (nonterminalCamel nt)) :
    definition? "static REDUCE_SIMULATOR: [(usize, NonterminalId); " (array? simulatorRow?) ';'
        u.lines =
      some ((liveProductions a).length,
        (liveProductions a).map fun p => ⟨p.1.slotCount, nonterminalCamel p.1.nt⟩) := by
  obtain ⟨-, hsim, -⟩ := sourceUnit_eq_ok h
  obtain ⟨before, after, hlines⟩ := lines_eq_simulator u
  have hrows : ∀ row ∈ u.simulator.rows, IsVariantName row.result := by
    rw [hsim, List.forall_mem_map]
    exact fun p hp => hnames p.1.nt (mem_liveProductions.1 hp).2
  rw [definition?_of_lines_eq h (by simp [SourceUnit.tableOpenings]) (listed_simulatorRows hrows)
    hlines, hsim]

theorem block?_terminals (h : sourceUnit settings a = .ok u) :
    block? "pub enum TerminalId \x7b" "\x7d" u.lines =
      some ([], a.terminals.zipIdx.map fun t =>
        terminalName t.1 ++ " = " ++ toString t.2 ++ ", // " ++ flatten t.1.display) := by
  obtain ⟨hterminals, -⟩ := sourceUnit_tables h
  have hlines : u.lines = (u.headerLines ++
        [Line.code 0 "#[derive(Copy, Clone, Debug, PartialEq)]"]) ++
      Line.code 0 ("pub enum TerminalId \x7b" ++ "") ::
      ((u.terminals.zipIdx.map fun t =>
        t.1.1 ++ " = " ++ toString t.2 ++ ", // " ++ flatten t.1.2).map (Line.code 1) ++
      Line.code 0 "\x7d" :: (blank :: (tokenLines ++ u.actionsLines ++ u.errorCodesLines ++
        u.nonterminalsLines ++ u.gotosLines ++ u.dispatcherLines ++ u.simulatorLines ++
        u.tablesLines ++ u.entriesLines))) := by
    simp [SourceUnit.lines, SourceUnit.terminalsLines, commentMarker, String.append_assoc]
  rw [block?_of_texts_eq h (by simp [SourceUnit.tableOpenings]) hlines
    (List.forall_mem_map.2 fun _ _ => by simp) (by decide), hterminals, List.zipIdx_map,
    List.map_map]
  rfl

theorem block?_nonterminals (h : sourceUnit settings a = .ok u) :
    block? "pub enum NonterminalId \x7b" "\x7d" u.lines =
      some ([], a.liveNonterminals.zipIdx.map fun nt =>
        nonterminalCamel nt.1 ++ " = " ++ toString nt.2 ++ ",") := by
  obtain ⟨-, -, -, -, hnonterminals, -⟩ := sourceUnit_tables h
  have hlines : u.lines = (u.headerLines ++ u.terminalsLines ++ tokenLines ++ u.actionsLines ++
        u.errorCodesLines ++ [Line.code 0 "#[derive(Clone, Copy, Debug, PartialEq)]"]) ++
      Line.code 0 ("pub enum NonterminalId \x7b" ++ "") ::
      ((u.nonterminals.zipIdx.map fun v => v.1 ++ " = " ++ toString v.2 ++ ",").map (Line.code 1) ++
      Line.code 0 "\x7d" :: (blank :: (u.gotosLines ++ u.dispatcherLines ++ u.simulatorLines ++
        u.tablesLines ++ u.entriesLines))) := by
    simp [SourceUnit.lines, SourceUnit.nonterminalsLines]
  rw [block?_of_texts_eq h (by simp [SourceUnit.tableOpenings]) hlines
    (List.forall_mem_map.2 fun _ _ => by simp) (by decide), hnonterminals, List.zipIdx_map,
    List.map_map]
  rfl

theorem block?_errorVariants (h : sourceUnit settings a = .ok u) :
    block? "pub enum ErrorCode \x7b" "\x7d" u.lines =
      some ([], (firstAppearances [] a.errorCodes).map fun code => camel code ++ ",") := by
  obtain ⟨-, -, hvariants, -⟩ := sourceUnit_tables h
  have hlines : u.lines = (u.headerLines ++ u.terminalsLines ++ tokenLines ++ u.actionsLines ++
        [Line.code 0 "#[derive(Clone, Debug, PartialEq)]"]) ++
      Line.code 0 ("pub enum ErrorCode \x7b" ++ "") ::
      ((u.errorVariants.map (· ++ ",")).map (Line.code 1) ++ Line.code 0 "\x7d" ::
      (blank :: arrayHead "STATE_TO_ERROR_CODE" "Option<ErrorCode>" u.stateErrors.length ::
      ((u.stateErrors.rows.zipIdx.flatMap fun s =>
        [traceComment s.1.1 s.2, Line.code 1 (writtenErrorCode s.1.2)]) ++
      [Line.code 0 "];", blank] ++ u.nonterminalsLines ++ u.gotosLines ++ u.dispatcherLines ++
        u.simulatorLines ++ u.tablesLines ++ u.entriesLines))) := by
    simp [SourceUnit.lines, SourceUnit.errorCodesLines]
    rfl
  rw [block?_of_texts_eq h (by simp [SourceUnit.tableOpenings]) hlines
    (List.forall_mem_map.2 fun _ _ => by simp) (by decide), hvariants, List.map_map]
  rfl

theorem block?_assertions (h : sourceUnit settings a = .ok u) :
    block? "impl<'a> ParserTables<'a> \x7b" "\x7d" u.lines =
      some ([], ["pub fn check(&self) \x7b",
        "assert_eq!(self.action_table.len(), self.state_count * self.action_width);",
        "assert_eq!(self.goto_table.len(), self.state_count * self.goto_width);", "\x7d"]) := by
  obtain ⟨first, hfirst⟩ : ∃ first, tablesTypeLines = first ++
      Line.code 0 "impl<'a> ParserTables<'a> \x7b" :: [Line.code 1 "pub fn check(&self) \x7b",
        .code 2 "assert_eq!(self.action_table.len(), self.state_count * self.action_width);",
        .code 2 "assert_eq!(self.goto_table.len(), self.state_count * self.goto_width);",
        Line.code 1 "\x7d", Line.code 0 "\x7d", blank] :=
    ⟨tablesTypeLines.take 11, rfl⟩
  obtain ⟨after, hafter⟩ : ∃ after, u.tablesLines = tablesTypeLines ++ after := ⟨_, rfl⟩
  have hlines : u.lines = (u.headerLines ++ u.terminalsLines ++ tokenLines ++ u.actionsLines ++
        u.errorCodesLines ++ u.nonterminalsLines ++ u.gotosLines ++ u.dispatcherLines ++
        u.simulatorLines ++ first) ++ Line.code 0 ("impl<'a> ParserTables<'a> \x7b" ++ "") ::
      ([Line.code 1 "pub fn check(&self) \x7b",
        .code 2 "assert_eq!(self.action_table.len(), self.state_count * self.action_width);",
        .code 2 "assert_eq!(self.goto_table.len(), self.state_count * self.goto_width);",
        Line.code 1 "\x7d"] ++ Line.code 0 "\x7d" :: (blank :: (after ++ u.entriesLines))) := by
    simp [SourceUnit.lines, hafter, hfirst]
  rw [block?_of_lines_eq h (by simp [SourceUnit.tableOpenings]) hlines (by simp) (by decide)]
  rfl

theorem block?_tables (h : sourceUnit settings a = .ok u) :
    block? "pub static TABLES: ParserTables<'static> = ParserTables \x7b" "\x7d;" u.lines =
      some ([], ["state_count: " ++ toString a.states.length ++ ",", "action_table: &ACTIONS,",
        "action_width: " ++ toString a.terminals.length ++ ",",
        "error_codes: &STATE_TO_ERROR_CODE,", "reduce_simulator: &REDUCE_SIMULATOR,",
        "goto_table: &GOTO,", "goto_width: " ++ toString a.liveNonterminals.length ++ ","]) := by
  obtain ⟨-, -, -, -, -, -, hstates, hactions, hgotos⟩ := sourceUnit_tables h
  have hlines : u.lines = (u.headerLines ++ u.terminalsLines ++ tokenLines ++ u.actionsLines ++
        u.errorCodesLines ++ u.nonterminalsLines ++ u.gotosLines ++ u.dispatcherLines ++
        u.simulatorLines ++ tablesTypeLines) ++
      Line.code 0 ("pub static TABLES: ParserTables<'static> = ParserTables \x7b" ++ "") ::
      (["state_count: " ++ toString u.stateCount ++ ",", "action_table: &ACTIONS,",
        "action_width: " ++ toString u.actionWidth ++ ",",
        "error_codes: &STATE_TO_ERROR_CODE,", "reduce_simulator: &REDUCE_SIMULATOR,",
        "goto_table: &GOTO,", "goto_width: " ++ toString u.gotoWidth ++ ","].map (Line.code 1) ++
      Line.code 0 "\x7d;" :: (blank :: u.entriesLines)) := by
    simp [SourceUnit.lines, SourceUnit.tablesLines]
  rw [block?_of_texts_eq h (by simp [SourceUnit.tableOpenings]) hlines (by simp) (by decide),
    hstates, hactions, hgotos]
  rfl

/-! ### The automaton in the tables -/

/-- The lines hold the flat tables of an automaton. A cell of the action table is the code of the
terminal of its column in the row of its state, if there is one, and a cell of the goto table is the
target of its nonterminal, or zero. Every array has as many elements as it declares. The arrays of
error codes and of reductions are read element by element if the variants in them are names; their
lines are the same without that. -/
structure FlatTables (a : Automaton) (lines : List Line) : Prop where
  actions : ∃ cells, definition? "static ACTIONS: [i64; " (array? action?) ';' lines =
      some (cells.length, cells) ∧ cells.length = a.states.length * a.terminals.length ∧
    ∀ i s j t, a.states[i]? = some s → a.terminals[j]? = some t →
      cells[i * a.terminals.length + j]? = some (s.actions.get? t)
  gotos : ∃ cells, definition? "static GOTO: [u16; " (array? natural?) ';' lines =
      some (cells.length, cells) ∧ cells.length = a.states.length * a.liveNonterminals.length ∧
    ∀ i s k nt, a.states[i]? = some s → a.liveNonterminals[k]? = some nt →
      cells[i * a.liveNonterminals.length + k]? = some ((s.gotos.get? nt).getD 0)
  errorCodes : (∀ code ∈ a.errorCodes, IsVariantName (camel code)) → ∃ elements,
    definition? "static STATE_TO_ERROR_CODE: [Option<ErrorCode>; " (array? errorCode?) ';' lines =
      some (elements.length, elements) ∧ elements = a.states.map fun s => s.errorCode.map camel
  reductions : (∀ nt ∈ a.liveNonterminals, IsVariantName (nonterminalCamel nt)) → ∃ elements,
    definition? "static REDUCE_SIMULATOR: [(usize, NonterminalId); " (array? simulatorRow?) ';'
        lines = some (elements.length, elements) ∧
    elements = (liveProductions a).map fun p => ⟨p.1.slotCount, nonterminalCamel p.1.nt⟩
  stateErrors : ∃ elements,
    block? "static STATE_TO_ERROR_CODE: [Option<ErrorCode>; " "];" lines =
      some (declared elements.length, elements) ∧
    elements = a.states.map fun s => writtenErrorCode (s.errorCode.map camel)
  simulator : ∃ elements,
    block? "static REDUCE_SIMULATOR: [(usize, NonterminalId); " "];" lines =
      some (declared elements.length, elements) ∧
    elements = (liveProductions a).map fun p =>
      "(" ++ toString p.1.slotCount ++ ", NonterminalId::" ++ nonterminalCamel p.1.nt ++ "),"
  terminals : block? "pub enum TerminalId \x7b" "\x7d" lines =
    some ([], a.terminals.zipIdx.map fun t =>
      terminalName t.1 ++ " = " ++ toString t.2 ++ ", // " ++ flatten t.1.display)
  nonterminals : block? "pub enum NonterminalId \x7b" "\x7d" lines =
    some ([], a.liveNonterminals.zipIdx.map fun nt =>
      nonterminalCamel nt.1 ++ " = " ++ toString nt.2 ++ ",")
  errorVariants : block? "pub enum ErrorCode \x7b" "\x7d" lines =
    some ([], (firstAppearances [] a.errorCodes).map fun code => camel code ++ ",")
  sizes : block? "pub static TABLES: ParserTables<'static> = ParserTables \x7b" "\x7d;" lines =
    some ([], ["state_count: " ++ toString a.states.length ++ ",", "action_table: &ACTIONS,",
      "action_width: " ++ toString a.terminals.length ++ ",",
      "error_codes: &STATE_TO_ERROR_CODE,", "reduce_simulator: &REDUCE_SIMULATOR,",
      "goto_table: &GOTO,", "goto_width: " ++ toString a.liveNonterminals.length ++ ","])
  assertions : block? "impl<'a> ParserTables<'a> \x7b" "\x7d" lines =
    some ([], ["pub fn check(&self) \x7b",
      "assert_eq!(self.action_table.len(), self.state_count * self.action_width);",
      "assert_eq!(self.goto_table.len(), self.state_count * self.goto_width);", "\x7d"])

theorem flatTables_of_sourceUnit (h : sourceUnit settings a = .ok u) : FlatTables a u.lines where
  actions := by
    have hwidth : ∀ s ∈ a.states, (a.terminals.map s.actions.get?).length = a.terminals.length :=
      fun _ _ => List.length_map _
    have hlength := length_flatMap_of_width hwidth
    refine ⟨_, hlength ▸ definition?_actions h, hlength, fun i s j t hs ht => ?_⟩
    rw [getElem?_flatMap_of_width hwidth hs (List.getElem?_eq_some_iff.1 ht).1, List.getElem?_map,
      ht]
    rfl
  gotos := by
    have hwidth : ∀ s ∈ a.states, (a.liveNonterminals.map fun nt =>
        (s.gotos.get? nt).getD 0).length = a.liveNonterminals.length := fun _ _ => List.length_map _
    have hlength := length_flatMap_of_width hwidth
    refine ⟨_, hlength ▸ definition?_gotos h, hlength, fun i s k nt hs hnt => ?_⟩
    rw [getElem?_flatMap_of_width hwidth hs (List.getElem?_eq_some_iff.1 hnt).1, List.getElem?_map,
      hnt]
    rfl
  errorCodes hnames := ⟨_, by rw [List.length_map]; exact definition?_stateErrors h hnames, rfl⟩
  reductions hnames := ⟨_, by rw [List.length_map]; exact definition?_simulator h hnames, rfl⟩
  stateErrors := ⟨_, by rw [List.length_map]; exact block?_stateErrors h, rfl⟩
  simulator := ⟨_, by rw [List.length_map]; exact block?_simulator h, rfl⟩
  terminals := block?_terminals h
  nonterminals := block?_nonterminals h
  errorVariants := block?_errorVariants h
  sizes := block?_tables h
  assertions := block?_assertions h

theorem nodup_map_of_apart {α : Type} {name : α → String} {as : List α} (h : Apart name as)
    (hnodup : as.Nodup) : (as.map name).Nodup :=
  List.Nodup.map_on (fun x hx y hy => h x hx y hy) hnodup

/-- A rendered document holds the flat tables of the automaton. Their columns are the symbols of
the rows, each once, in the order in which they first appear, and the names of the columns and of
the error codes are distinct. -/
theorem flat_tables_encode {settings : Settings} {a : Automaton} {text : String}
    (h : render settings .compiled a = .ok text) :
    ∃ u, sourceUnit settings.compiled a = .ok u ∧ text = Source.text u.lines ∧
      FlatTables a u.lines ∧
      ListsAppearances (a.states.flatMap fun s => s.actions.keys) a.terminals ∧
      ListsAppearances (a.states.flatMap fun s => s.gotos.keys) a.liveNonterminals ∧
      (a.terminals.map terminalName).Nodup ∧ (a.liveNonterminals.map nonterminalCamel).Nodup ∧
      ((firstAppearances [] a.errorCodes).map camel).Nodup := by
  obtain ⟨hcheck, u, hu, htext⟩ := render_compiled_eq_ok_iff.1 h
  have husable := a.check_eq_ok_iff.1 hcheck
  exact ⟨u, hu, htext, flatTables_of_sourceUnit hu, listsAppearances_firstAppearances _,
    listsAppearances_firstAppearances _, nodup_map_of_apart husable.terminals a.nodup_terminals,
    nodup_map_of_apart husable.nonterminals a.nodup_liveNonterminals,
    nodup_map_of_apart (apart_firstAppearances_iff.2 husable.errorCodes)
      (nodup_firstAppearances _ _)⟩

/-- Three states whose rows name the symbols in different orders. -/
def scattered : Automaton where
  grammar := .empty
  states := [
    ⟨⟨[(.symbol "NUM", 1), (.symbol "(", 2)], by decide⟩,
      ⟨[(.plain "Item", 2), (.plain "Pair", 1)], by decide⟩, none, some "Start"⟩,
    ⟨⟨[(.endOfInput, -4), (.symbol ",", 2)], by decide⟩, .empty, some "missing_item", none⟩,
    ⟨⟨[(.symbol "(", 2), (.symbol "NUM", -1)], by decide⟩,
      ⟨[(.plain "Pair", 1)], by decide⟩, some "missing_item", none⟩]
  productions := []
  goals := .empty

/-- The tables of `scattered` have three rows. In its last one, the second column has a code, the
third one has none, and the first nonterminal has no target. The last two states share an error
code. -/
theorem flat_tables_encode_scattered :
    ∃ text, ∃ u : SourceUnit, ∃ actions gotos, render {} .compiled scattered = .ok text ∧
      text = Source.text u.lines ∧
      definition? "static ACTIONS: [i64; " (array? action?) ';' u.lines = some (3 * 4, actions) ∧
      actions[2 * 4 + 1]? = some (some 2) ∧ actions[2 * 4 + 2]? = some none ∧
      definition? "static GOTO: [u16; " (array? natural?) ';' u.lines = some (3 * 2, gotos) ∧
      gotos[2 * 2 + 0]? = some 0 ∧ gotos[2 * 2 + 1]? = some 1 ∧
      definition? "static STATE_TO_ERROR_CODE: [Option<ErrorCode>; " (array? errorCode?) ';'
        u.lines = some (3, [none, some "MissingItem", some "MissingItem"]) := by
  have hok : (render {} .compiled scattered).isOk = true := by decide +kernel
  cases hr : render {} .compiled scattered with
  | error f => rw [hr] at hok; cases hok
  | ok text =>
      obtain ⟨u, -, htext, htables, -⟩ := flat_tables_encode hr
      have hterminals : scattered.terminals =
          [.symbol "NUM", .symbol "(", .endOfInput, .symbol ","] := by decide
      have hnonterminals : scattered.liveNonterminals = [.plain "Item", .plain "Pair"] := by decide
      obtain ⟨actions, hactions, hsize, hcells⟩ := htables.actions
      obtain ⟨gotos, hgotos, hsize', htargets⟩ := htables.gotos
      rw [hterminals] at hsize hcells
      rw [hnonterminals] at hsize' htargets
      rw [hsize] at hactions
      rw [hsize'] at hgotos
      have hnames : ∀ code ∈ scattered.errorCodes, IsVariantName (camel code) := by decide +kernel
      obtain ⟨codes, hcodes, rfl⟩ := htables.errorCodes hnames
      have hmissing : scattered.states.map (fun s => s.errorCode.map camel) =
          [none, some "MissingItem", some "MissingItem"] := by decide +kernel
      rw [hmissing] at hcodes
      exact ⟨text, u, actions, gotos, rfl, htext, hactions, hcells 2 _ 1 _ rfl rfl,
        hcells 2 _ 2 _ rfl rfl, hgotos, htargets 2 _ 0 _ rfl rfl, htargets 2 _ 1 _ rfl rfl, hcodes⟩

end ParserTables.Compiled
