import ParserTables.Interpreted.Unit
import ParserTables.Proofs.Interpreted.Literal
import ParserTables.Proofs.Source.Definition

/-!
# Tables of the interpreted target that are read back

How the interpreted target reads the lists and dictionaries of a unit. The cells are string
literals, integers, and the two names that stand for the absence of a text and for the error
token. A dictionary is read as its entries in order; that its keys are distinct is a property of
what is read.
-/

namespace ParserTables.Interpreted

open ParserTables.Grammar ParserTables.Text ParserTables.Source

/-- What starts a comment. -/
def hash : Marker where
  first := '#'
  rest := []
  visible := rfl
  apart := rfl
  oneLine := List.not_mem_nil

/-- A text, or the absence of one. -/
def optionalText? : Reader (Option String) := fun cs =>
  match word? cs with
  | some (word, rest) => if word = "None" then some (none, rest) else none
  | none => (text? cs).map fun p => (some p.1, p.2)

/-- A terminal: a text stands for a symbol, and its absence for the end of the input. -/
def terminal? : Reader Terminal := fun cs =>
  match word? cs with
  | some ("ErrorToken", rest) => some (.errorToken, rest)
  | _ => (optionalText? cs).map fun p => (p.1.elim .endOfInput .symbol, p.2)

section Readers

variable {α κ ν : Type}

/-- An entry of a dictionary. -/
def pair? (key? : Reader κ) (value? : Reader ν) : Reader (κ × ν) := fun cs =>
  (key? cs).bind fun k =>
    match hash.skip false k.2 with
    | ':' :: rest => (value? (hash.skip false rest)).map fun v => ((k.1, v.1), v.2)
    | _ => none

/-- A dictionary. -/
def dictionary? (key? : Reader κ) (value? : Reader ν) : Reader (List (κ × ν)) :=
  sequence? hash .curly (pair? key? value?)

/-- A list. -/
def list? (item : Reader α) : Reader (List α) := sequence? hash .square item

end Readers

/-! ### Cells -/

theorem word?_eq_none {c : Char} (hc : isWordChar c = false) (cs : List Char) :
    word? (c :: cs) = none := by
  simp [word?, run?, hc]

theorem exists_literal_eq_cons (s : String) :
    ∃ c cs, (literal s).toList = c :: cs ∧ (c = '\x27' ∨ c = '\x22') :=
  ⟨_, _, by rw [literal, String.toList_ofList]; rfl, quoteOf_eq s.toList⟩

theorem word?_literal (s : String) (cs : List Char) : word? ((literal s).toList ++ cs) = none := by
  obtain ⟨c, cs', hc, hquote⟩ := exists_literal_eq_cons s
  rw [hc]
  exact word?_eq_none (by rcases hquote with rfl | rfl <;> decide) _

theorem head_literal (s : String) :
    ∃ c cs, (literal s).toList = c :: cs ∧ c.isWhitespace = false ∧ isDelimiter c = false ∧
      c ≠ hash.first := by
  obtain ⟨c, cs, hc, rfl | rfl⟩ := exists_literal_eq_cons s
  · exact ⟨_, cs, hc, rfl, rfl, by decide⟩
  · exact ⟨_, cs, hc, rfl, rfl, by decide⟩

theorem item_text (s : String) : Item hash text? (literal s).toList s :=
  ⟨head_literal s, fun _ rest hd => text?_literal s hd rest⟩

theorem item_optionalText (o : Option String) :
    Item hash optionalText? (optionalLiteral o).toList o := by
  cases o with
  | none =>
      refine ⟨⟨'N', _, rfl, rfl, rfl, by decide⟩, fun d rest hd => ?_⟩
      have hword : word? ("None".toList ++ d :: rest) = some ("None", d :: rest) :=
        word?_append (by decide) (by decide) hd
      simp only [optionalText?, optionalLiteral, hword]
      rfl
  | some s =>
      refine ⟨head_literal s, fun d rest hd => ?_⟩
      simp only [optionalText?, optionalLiteral, word?_literal, text?_literal s hd]
      rfl

/-- The name of the error token is read as the error token, and all else as an optional text. -/
theorem item_terminal (t : Terminal) : Item hash terminal? (Key.ofTerminal t).written.toList t := by
  cases t with
  | symbol s =>
      refine ⟨head_literal s, fun d rest hd => ?_⟩
      have hread := (item_optionalText (some s)).reads d rest hd
      simp only [optionalLiteral] at hread
      simp only [terminal?, Key.ofTerminal, Key.written, word?_literal, hread]
      rfl
  | endOfInput =>
      refine ⟨⟨'N', _, rfl, rfl, rfl, by decide⟩, fun d rest hd => ?_⟩
      have hword : word? ("None".toList ++ d :: rest) = some ("None", d :: rest) :=
        word?_append (by decide) (by decide) hd
      have hread := (item_optionalText none).reads d rest hd
      simp only [optionalLiteral] at hread
      simp only [terminal?, Key.ofTerminal, Key.written, hword, hread]
      rfl
  | errorToken =>
      refine ⟨⟨'E', _, rfl, rfl, rfl, by decide⟩, fun d rest hd => ?_⟩
      have hword : word? ("ErrorToken".toList ++ d :: rest) = some ("ErrorToken", d :: rest) :=
        word?_append (by decide) (by decide) hd
      simp only [terminal?, Key.ofTerminal, Key.written, hword]

/-! ### Dictionaries -/

section Dictionaries

variable {κ ν : Type} {key? : Reader κ} {value? : Reader ν}

theorem item_pair {w w' : List Char} {k : κ} {v : ν} (hk : Item hash key? w k)
    (hv : Item hash value? w' v) :
    Item hash (pair? key? value?) (w ++ ':' :: ' ' :: w') (k, v) := by
  constructor
  · obtain ⟨c, cs, rfl, hc⟩ := hk.head
    exact ⟨c, _, rfl, hc⟩
  · intro d rest hd
    obtain ⟨c, cs, hw', hspace, -, hmarker⟩ := hv.head
    have hcolon : hash.skip false (':' :: ' ' :: (w' ++ d :: rest)) =
        ':' :: ' ' :: (w' ++ d :: rest) := skip_delimiter rfl _
    have hblank : Blank hash [' '] := blank_of_isWhitespace (by simp)
    have hvalue : hash.skip false (' ' :: (w' ++ d :: rest)) = w' ++ d :: rest := by
      refine (hblank (w' ++ d :: rest)).trans ?_
      rw [hw', List.cons_append, skip_cons hspace hmarker]
    have hkey := hk.reads ':' (' ' :: (w' ++ d :: rest)) rfl
    rw [List.append_assoc, List.cons_append, List.cons_append, pair?, hkey]
    simp only [Option.bind_some, hcolon, hvalue, hv.reads d rest hd]
    rfl

/-- A dictionary is read as the list of its entries. -/
theorem item_dictionary {γ : Type} {xs : List γ} {k : γ → κ} {v : γ → ν} {w w' : γ → String}
    (hk : ∀ x ∈ xs, Item hash key? (w x).toList (k x))
    (hv : ∀ x ∈ xs, Item hash value? (w' x).toList (v x)) :
    Item hash (dictionary? key? value?)
      (dictionary (xs.map fun x => (w x, w' x))).toList (xs.map fun x => (k x, v x)) := by
  have hbody : Body hash .curly (pair? key? value?) (xs.map fun x => (k x, v x))
      ([] ++ (List.intercalate [',', ' ']
        (xs.map fun x => (w x).toList ++ ':' :: ' ' :: (w' x).toList) ++ ['\x7d'])) :=
    body_intercalate (fun x hx => item_pair (hk x hx) (hv x hx)) blank_nil
  have htext : (dictionary (xs.map fun x => (w x, w' x))).toList =
      '\x7b' :: (List.intercalate [',', ' ']
        (xs.map fun x => (w x).toList ++ ':' :: ' ' :: (w' x).toList) ++ ['\x7d']) := by
    simp [dictionary, String.toList_intercalate, Function.comp_def]
  rw [htext]
  refine ⟨⟨'\x7b', _, rfl, rfl, rfl, by decide⟩, fun d rest _ => ?_⟩
  exact hbody.sequence?_append (d :: rest)

theorem listed_dictionary {γ : Type} (xs : List γ) {k : γ → κ} {v : γ → ν} {w w' : γ → String}
    (hk : ∀ x ∈ xs, Item hash key? (w x).toList (k x))
    (hv : ∀ x ∈ xs, Item hash value? (w' x).toList (v x)) :
    Listed hash .square (dictionary? key? value?) [xs.map fun x => (k x, v x)]
      (dictionary (xs.map fun x => (w x, w' x)) ++ ",").toList := by
  simpa using (item_dictionary hk hv).listed

end Dictionaries

/-! ### The parts of a unit -/

theorem flatten_groups {α : Type} (size : Nat) (group as : List α) :
    (groups size group as).flatten = group.reverse ++ as := by
  induction as generalizing group with
  | nil => cases group <;> simp [groups]
  | cons a as ih =>
      rw [groups]
      split
      · rw [ih]
        simp
      · rw [List.flatten_cons, ih]
        simp

theorem toList_text_flatMap {γ : Type} (xs : List γ) (f : γ → List Line) :
    (text (xs.flatMap f)).toList = xs.flatMap fun x => (text (f x)).toList := by
  simp only [toList_text, List.flatMap_assoc]

theorem toList_text_map {γ : Type} (xs : List γ) (f : γ → Line) :
    (text (xs.map f)).toList = xs.flatMap fun x => (f x).text.toList := by
  simp only [toList_text, List.flatMap_map]

theorem listed_actionLines (index : Nat) (trace : String) (row : List (Terminal × Int)) :
    Listed hash .square (dictionary? terminal? integer?) [row]
      (text (SourceUnit.actionLines index
        (trace, row.map fun e => (Key.ofTerminal e.1, e.2)))).toList := by
  have hcomment : Listed hash .square (dictionary? terminal? integer?) []
      (Line.comment 1 commentMarker (toString index ++ ". " ++ trace)).text.toList :=
    listed_of_blank (blank_comment_line rfl _ _)
  have hrow : Listed hash .square (dictionary? terminal? integer?) [row]
      (dictionary (row.map fun e => ((Key.ofTerminal e.1).written, toString e.2)) ++
        ",").toList := by
    simpa using listed_dictionary row (fun e _ => item_terminal e.1)
      (fun e _ => item_integer rfl (by decide) e.2)
  have hblank : Listed hash .square (dictionary? terminal? integer?) [] blank.text.toList :=
    listed_of_blank (blank_of_isWhitespace (by simp [blank, Line.text]))
  simpa [toList_text, SourceUnit.actionLines, Function.comp_def] using
    hcomment.append ((hrow.code 1).append hblank)

/-- The comments and the action rows between the brackets. -/
theorem listed_actions (rows : List (String × List (Terminal × Int))) :
    Listed hash .square (dictionary? terminal? integer?) (rows.map Prod.snd)
      (text ((rows.map fun r => (r.1, r.2.map fun e => (Key.ofTerminal e.1, e.2))).zipIdx.flatMap
        fun s => SourceUnit.actionLines s.2 s.1)).toList := by
  rw [toList_text_flatMap, List.zipIdx_map, List.flatMap_map, ← map_zipIdx_fst rows Prod.snd]
  exact listed_map fun s _ => listed_actionLines s.2 s.1.1 s.1.2

theorem listed_gotos (rows : List (List (String × Nat))) :
    Listed hash .square (dictionary? text? natural?) rows
      (text (rows.map SourceUnit.gotoLine)).toList := by
  have h : Listed hash .square (dictionary? text? natural?) (rows.map id)
      (rows.flatMap fun row => (SourceUnit.gotoLine row).text.toList) := by
    refine listed_map fun row _ => Listed.code ?_ 1
    simpa using listed_dictionary row (fun e _ => item_text e.1) (fun e _ => item_natural rfl e.2)
  rwa [List.map_id, ← toList_text_map] at h

/-- The error codes stay in order, whatever line they are written on. -/
theorem listed_errorCodes (codes : List (Option String)) :
    Listed hash .square optionalText? codes
      (text ((groups errorCodesPerLine [] codes).map fun codes =>
        .code 1 (String.intercalate " " (codes.map fun c => optionalLiteral c ++ ",")))).toList := by
  have hflat : (groups errorCodesPerLine [] codes).flatMap id = codes := by
    rw [List.flatMap_id, flatten_groups, List.reverse_nil, List.nil_append]
  rw [toList_text_map]
  conv in (Listed _ _ _ codes) => rw [← hflat]
  refine listed_flatMap fun group _ => Listed.code ?_ 1
  simpa [String.toList_intercalate, Function.comp_def] using
    listed_intercalate group fun c _ => item_optionalText c

theorem listed_goals (goals : List (String × Nat)) :
    Listed hash .curly (pair? text? natural?) goals
      (text (goals.map fun g =>
        .code 1 (literal g.1 ++ ": " ++ toString g.2 ++ ","))).toList := by
  have h : Listed hash .curly (pair? text? natural?) (goals.map id)
      (goals.flatMap fun g =>
        (Line.code 1 (literal g.1 ++ ": " ++ toString g.2 ++ ",")).text.toList) := by
    refine listed_map fun g _ => Listed.code ?_ 1
    simpa using (item_pair (item_text g.1) (item_natural rfl g.2)).listed
  rwa [List.map_id, ← toList_text_map] at h

end ParserTables.Interpreted
