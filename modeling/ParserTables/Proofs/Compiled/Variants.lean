import ParserTables.Proofs.Compiled.Tables
import ParserTables.Proofs.Grammar.Symbol

/-!
# Variants that are declared and referred to

The arms, the rows of the simulator and the array of error codes refer to variants of enumerations
that are declared elsewhere in the unit. The spelling of a variant is made anew at every place, so
that a reference finds the variant of the symbol that it stands for because the checks keep the
spellings apart.
-/

namespace ParserTables.Compiled

open ParserTables.Grammar ParserTables.Naming ParserTables.Source ParserTables.Text

/-! ### Declarations with numbers -/

/-- The text behind the last blank is the number of a declaration. -/
theorem numbered_inj {v w : String} {i n : Nat}
    (h : v ++ " = " ++ toString i ++ "," = w ++ " = " ++ toString n ++ ",") : v = w ∧ i = n := by
  have hsplit : ∀ (v : String) (i : Nat), (v ++ " = " ++ toString i ++ ",").toList.reverse =
      ',' :: ((decimal i).reverse ++ ' ' :: '=' :: ' ' :: v.toList.reverse) := by
    intro v i
    simp [decimal]
  have hblank : ∀ i, ' ' ∉ (decimal i).reverse := fun i hmem =>
    absurd (isDigit_of_mem_decimal (List.mem_reverse.1 hmem)) (by decide)
  have hlist := congrArg (fun s => s.toList.reverse) h
  simp only [hsplit] at hlist
  obtain ⟨hdigits, hname⟩ := append_inj_of_head (hblank i) (hblank n)
    (by simp) (by simp) (List.cons.inj hlist).2
  constructor
  · exact String.toList_inj.1 (List.reverse_injective (by simpa using hname))
  · rw [← decimalValue_decimal i, List.reverse_injective hdigits, decimalValue_decimal]

/-- The enumeration of the nonterminals declares a variant once, and with this number. -/
def DeclaresNonterminal (lines : List Line) (variant : String) (number : Nat) : Prop :=
  ∃ declarations, block? "pub enum NonterminalId \x7b" "\x7d" lines = some ([], declarations) ∧
    ∀ i n, declarations[i]? = some (variant ++ " = " ++ toString n ++ ",") ↔
      i = number ∧ n = number

/-- The enumeration of the error codes declares a variant once. -/
def DeclaresErrorCode (lines : List Line) (variant : String) : Prop :=
  ∃ declarations, block? "pub enum ErrorCode \x7b" "\x7d" lines = some ([], declarations) ∧
    declarations.count (variant ++ ",") = 1

section Declarations

variable {settings : CompiledSettings} {a : Automaton} {u : SourceUnit}

theorem declaresNonterminal (h : sourceUnit settings a = .ok u)
    (hapart : Apart nonterminalCamel a.liveNonterminals) {k : Nat} {nt : Nonterminal}
    (hk : a.liveNonterminals[k]? = some nt) :
    DeclaresNonterminal u.lines (nonterminalCamel nt) k := by
  refine ⟨_, block?_nonterminals h, fun i n => ?_⟩
  rw [List.getElem?_map, List.getElem?_zipIdx, Option.map_map, Option.map_eq_some_iff, Nat.zero_add]
  constructor
  · rintro ⟨nt', hi, htext⟩
    obtain ⟨hname, rfl⟩ := numbered_inj htext
    obtain rfl := hapart _ (List.mem_of_getElem? hi) _ (List.mem_of_getElem? hk) hname
    have hlt := (List.getElem?_eq_some_iff.1 hi).1
    have hik := (List.getElem?_inj hlt a.nodup_liveNonterminals).1 (hi.trans hk.symm)
    exact ⟨hik, hik⟩
  · rintro ⟨rfl, rfl⟩
    exact ⟨nt, hk, rfl⟩

theorem declaresErrorCode (h : sourceUnit settings a = .ok u) (hapart : Apart camel a.errorCodes)
    {code : String} (hcode : code ∈ a.errorCodes) : DeclaresErrorCode u.lines (camel code) := by
  have hapart' : Apart (fun code => camel code ++ ",") (firstAppearances [] a.errorCodes) :=
    fun c hc d hd heq =>
      apart_firstAppearances_iff.2 hapart c hc d hd ((String.append_left_inj _).1 heq)
  refine ⟨_, block?_errorVariants h, List.count_eq_one_of_mem
    (nodup_map_of_apart hapart' (nodup_firstAppearances _ _)) (List.mem_map.2 ⟨code, ?_, rfl⟩)⟩
  exact mem_firstAppearances.2 ⟨hcode, List.not_mem_nil⟩

end Declarations

/-! ### References -/

theorem writtenErrorCode_injective : Function.Injective writtenErrorCode := by
  intro o o' h
  have hlist := congrArg String.toList h
  cases o with
  | none =>
      cases o' with
      | none => rfl
      | some v => simp at hlist
  | some v =>
      cases o' with
      | none => simp at hlist
      | some w =>
          simp only [writtenErrorCode_some, String.toList_append, List.append_cancel_left_eq,
            List.append_cancel_right_eq, String.toList_inj] at hlist
          rw [hlist]

theorem map_camel_inj {codes : List String} (hapart : Apart camel codes) {o o' : Option String}
    (ho : ∀ code ∈ o, code ∈ codes) (ho' : ∀ code ∈ o', code ∈ codes) :
    o.map camel = o'.map camel ↔ o = o' := by
  refine ⟨fun h => ?_, fun h => by rw [h]⟩
  cases o with
  | none => exact (Option.map_eq_none_iff.1 h.symm).symm
  | some code =>
      obtain ⟨code', hcode', heq⟩ := Option.map_eq_some_iff.1 h.symm
      rw [hcode', hapart _ (ho code rfl) _ (ho' code' hcode') heq.symm]

/-- The names in a unit resolve. The variants of each enumeration are distinct. The variant in an
arm, and in a row of the simulator, is declared with the number of the nonterminal of the
production. The variant of a state's error code is declared, and two states have the same one
exactly if they have the same error code. -/
structure Resolves (a : Automaton) (u : SourceUnit) : Prop where
  terminals : block? "pub enum TerminalId \x7b" "\x7d" u.lines =
      some ([], a.terminals.zipIdx.map fun t =>
        terminalName t.1 ++ " = " ++ toString t.2 ++ ", // " ++ flatten t.1.display) ∧
    (a.terminals.map terminalName).Nodup
  nonterminals : block? "pub enum NonterminalId \x7b" "\x7d" u.lines =
      some ([], a.liveNonterminals.zipIdx.map fun nt =>
        nonterminalCamel nt.1 ++ " = " ++ toString nt.2 ++ ",") ∧
    (a.liveNonterminals.map nonterminalCamel).Nodup
  errorCodes : block? "pub enum ErrorCode \x7b" "\x7d" u.lines =
      some ([], (firstAppearances [] a.errorCodes).map fun code => camel code ++ ",") ∧
    ((firstAppearances [] a.errorCodes).map camel).Nodup
  arms : ∀ arm ∈ u.arms, arm.lines <:+: u.lines ∧ ∃ p variant k,
    a.productions[arm.index]? = some p ∧
    [.code 3 ("Ok(NonterminalId::" ++ variant ++ ")"), .code 2 "\x7d"] <:+ arm.lines ∧
    a.liveNonterminals[k]? = some p.nt ∧ DeclaresNonterminal u.lines variant k
  simulator : ∃ rows,
    block? "static REDUCE_SIMULATOR: [(usize, NonterminalId); " "];" u.lines =
      some (declared rows.length, rows) ∧ rows.length = (liveProductions a).length ∧
    ∀ (j : Nat) (p : Production) (i : Nat), (liveProductions a)[j]? = some (p, i) → ∃ variant k,
      rows[j]? =
        some ("(" ++ toString p.slotCount ++ ", NonterminalId::" ++ variant ++ "),") ∧
      a.liveNonterminals[k]? = some p.nt ∧ DeclaresNonterminal u.lines variant k
  stateErrors : ∃ elements,
    block? "static STATE_TO_ERROR_CODE: [Option<ErrorCode>; " "];" u.lines =
      some (declared elements.length, elements) ∧ elements.length = a.states.length ∧
    (∀ (i : Nat) (s : State), a.states[i]? = some s → s.errorCode = none →
      elements[i]? = some "None,") ∧
    (∀ (i : Nat) (s : State) code, a.states[i]? = some s → s.errorCode = some code → ∃ variant,
      elements[i]? = some ("Some(ErrorCode::" ++ variant ++ "),") ∧
      DeclaresErrorCode u.lines variant) ∧
    ∀ (i j : Nat) (s t : State), a.states[i]? = some s → a.states[j]? = some t →
      (elements[i]? = elements[j]? ↔ s.errorCode = t.errorCode)

theorem resolves_of_sourceUnit {settings : CompiledSettings} {a : Automaton} {u : SourceUnit}
    (h : sourceUnit settings a = .ok u) (husable : a.Usable) : Resolves a u where
  terminals :=
    ⟨block?_terminals h, nodup_map_of_apart husable.terminals a.nodup_terminals⟩
  nonterminals :=
    ⟨block?_nonterminals h, nodup_map_of_apart husable.nonterminals a.nodup_liveNonterminals⟩
  errorCodes := ⟨block?_errorVariants h, nodup_map_of_apart
    (apart_firstAppearances_iff.2 husable.errorCodes) (nodup_firstAppearances _ _)⟩
  arms := by
    intro arm harm
    obtain ⟨p, hp, hlive, ha⟩ := production_of_mem_arms h harm
    obtain ⟨k, hk⟩ := List.mem_iff_getElem?.1 hlive
    have hprinted := lines_infix harm
    refine ⟨hprinted, p, arm.result, k, hp, List.suffix_append _ _, hk, ?_⟩
    rw [(armOf_eq_ok ha).2.2.1]
    exact declaresNonterminal h husable.nonterminals hk
  simulator := by
    refine ⟨_, by rw [List.length_map]; exact block?_simulator h, List.length_map _, ?_⟩
    intro j p i hj
    obtain ⟨k, hk⟩ :=
      List.mem_iff_getElem?.1 (mem_liveProductions.1 (List.mem_of_getElem? hj)).2
    refine ⟨_, k, ?_, hk, declaresNonterminal h husable.nonterminals hk⟩
    rw [List.getElem?_map, hj]
    rfl
  stateErrors := by
    have hcodes : ∀ (i : Nat) (s : State), a.states[i]? = some s →
        ∀ code ∈ s.errorCode, code ∈ a.errorCodes :=
      fun i s hs code hcode => List.mem_filterMap.2 ⟨s, List.mem_of_getElem? hs, hcode⟩
    refine ⟨_, by rw [List.length_map]; exact block?_stateErrors h, List.length_map _, ?_, ?_, ?_⟩
    · intro i s hs hnone
      rw [List.getElem?_map, hs, Option.map_some, hnone]
      rfl
    · intro i s code hs hcode
      refine ⟨camel code, ?_, declaresErrorCode h husable.errorCodes (hcodes i s hs code hcode)⟩
      rw [List.getElem?_map, hs, Option.map_some, hcode]
      rfl
    · intro i j s t hs ht
      rw [List.getElem?_map, List.getElem?_map, hs, ht, Option.map_some, Option.map_some,
        Option.some_inj, writtenErrorCode_injective.eq_iff]
      exact map_camel_inj husable.errorCodes (hcodes i s hs) (hcodes j t ht)

/-- In a rendered document every name resolves to what it stands for. -/
theorem rendered_names_resolve {settings : Settings} {a : Automaton} {text : String}
    (h : render settings .compiled a = .ok text) :
    ∃ u, sourceUnit settings.compiled a = .ok u ∧ text = Source.text u.lines ∧ Resolves a u := by
  obtain ⟨hcheck, u, hu, htext⟩ := render_compiled_eq_ok_iff.1 h
  exact ⟨u, hu, htext, resolves_of_sourceUnit hu (a.check_eq_ok_iff.1 hcheck)⟩

/-- The last two of the three states share an error code, and the second nonterminal has a
parameter that is set. -/
def labelled : Automaton where
  grammar := {
    nonterminalTypes := ⟨[("Item", .declared "Item"), ("Pair", .declared "Pair")], by decide⟩
    methods := .empty
    variableTerminals := ["NUM"] }
  states := [
    ⟨.single (.symbol "NUM") 1, .single (.plain "Item") 1, none, none⟩,
    ⟨.single (.symbol ",") 2, .single ⟨"Pair", [("In", true)]⟩ 2, some "missing_item", none⟩,
    ⟨.single .endOfInput (-1), .empty, some "missing_item", none⟩]
  productions := [
    ⟨.plain "Item", [.terminal (.symbol "NUM")], .slot 0, false⟩,
    ⟨⟨"Pair", [("In", true)]⟩, [.nonterminal (.plain "Item"), .terminal (.symbol ",")], .slot 0,
      false⟩]
  goals := .empty

/-- In `labelled`, the second arm and the second row refer to the second nonterminal, and the last
two states to one variant, which the first state does not have. -/
theorem rendered_names_resolve_labelled :
    (∃ text, render {} .compiled labelled = .ok text) ∧
      ∃ u, sourceUnit {} labelled = .ok u ∧
        (∃ arm ∈ u.arms, arm.index = 1 ∧ ∃ variant,
          [.code 3 ("Ok(NonterminalId::" ++ variant ++ ")"), .code 2 "\x7d"] <:+ arm.lines ∧
          DeclaresNonterminal u.lines variant 1) ∧
        ∃ elements : List String, elements.length = 3 ∧ elements[1]? = elements[2]? ∧
          elements[0]? ≠ elements[1]? ∧ ∃ variant,
            elements[1]? = some ("Some(ErrorCode::" ++ variant ++ "),") ∧
            DeclaresErrorCode u.lines variant := by
  obtain ⟨text, h⟩ : ∃ text, render {} .compiled labelled = .ok text :=
    exists_eq_ok_of_isOk (by decide +kernel)
  obtain ⟨u, hu, -, hresolves⟩ := rendered_names_resolve h
  obtain ⟨arm, hmem, ha, -⟩ := exists_arm hu (i := 1) rfl (by decide)
  have hindex := (armOf_eq_ok ha).1
  obtain ⟨-, p, variant, k, hp, hwritten, hk, hdeclared⟩ := hresolves.arms arm hmem
  obtain ⟨elements, -, hlength, -, hcodes, hsame⟩ := hresolves.stateErrors
  rw [hindex] at hp
  cases hp
  have hk1 : k = 1 :=
    (List.getElem?_inj (List.getElem?_eq_some_iff.1 hk).1 labelled.nodup_liveNonterminals).1
      (hk.trans (by decide))
  have hne : elements[0]? ≠ elements[1]? := by
    intro heq
    cases (hsame 0 1 _ _ rfl rfl).1 heq
  exact ⟨⟨text, h⟩, u, hu, ⟨arm, hmem, hindex, variant, hwritten, hk1 ▸ hdeclared⟩, elements,
    hlength, (hsame 1 2 _ _ rfl rfl).2 rfl, hne, hcodes 1 _ _ rfl rfl⟩

end ParserTables.Compiled
