import ParserTables.Compiled.Unit
import ParserTables.Proofs.Source.Definition

/-!
# Tables of the compiled target that are read back

How the compiled target reads a static array: its declared length, and the elements between the
brackets. A table is flat, so an element is found by the number of its row, the width of the table
and the number of its column.
-/

namespace ParserTables.Compiled

open ParserTables.Text ParserTables.Source

/-- What starts a comment. -/
def slashes : Marker where
  first := '/'
  rest := ['/']
  visible := rfl
  apart := rfl
  oneLine := by decide

/-- A cell of the action table: an integer, or the constant for an absent action. -/
def action? : Reader (Option Int) := fun cs =>
  match integer? cs with
  | some (code, rest) => some (some code, rest)
  | none =>
    match word? cs with
    | some ("ERROR", rest) => some (none, rest)
    | _ => none

/-- A character of the name of a variant. Beyond ASCII all of them are taken for letters, so that
none is missing that a name can have. -/
def isVariantChar (c : Char) : Bool := isWordChar c || decide (127 < c.toNat)

/-- The text can be the name of a variant. -/
def IsVariantName (name : String) : Prop := name ≠ "" ∧ name.toList.all isVariantChar = true

instance (name : String) : Decidable (IsVariantName name) := inferInstanceAs (Decidable (_ ∧ _))

/-- A variant behind the name of its enumeration. -/
def variant? (enumeration : String) : Reader String := fun cs =>
  match word? cs with
  | some (word, ':' :: ':' :: rest) =>
    if word = enumeration then run? isVariantChar rest else none
  | _ => none

/-- An element of the array of error codes: a variant, or nothing. -/
def errorCode? : Reader (Option String) := fun cs =>
  match word? cs with
  | some ("None", rest) => some (none, rest)
  | some ("Some", '(' :: rest) =>
    match variant? "ErrorCode" rest with
    | some (variant, ')' :: rest) => some (some variant, rest)
    | _ => none
  | _ => none

/-- An element of the array of reductions: how many values are popped, and the variant of the
nonterminal. -/
def simulatorRow? : Reader SimulatorRow
  | '(' :: cs =>
    match natural? cs with
    | some (pops, ',' :: ' ' :: rest) =>
      match variant? "NonterminalId" rest with
      | some (result, ')' :: rest) => some (⟨pops, result⟩, rest)
      | _ => none
    | _ => none
  | _ => none

/-- The declared length of a static array, and its elements. -/
def array? {α : Type} (item : Reader α) : Reader (Nat × List α) := fun cs =>
  (natural? cs).bind fun n =>
    match n.2 with
    | ']' :: ' ' :: '=' :: ' ' :: rest =>
      (sequence? slashes .square item rest).map fun as => ((n.1, as.1), as.2)
    | _ => none

/-! ### Cells and rows -/

/-- A cell of the action table as it is written. -/
def writtenAction : Option Int → String
  | some code => toString code
  | none => "ERROR"

theorem item_action (o : Option Int) : Item slashes action? (writtenAction o).toList o := by
  cases o with
  | some code =>
      have h : Item slashes integer? (toString code).toList code :=
        item_integer rfl (by decide) code
      exact ⟨h.head, fun d rest hd => by simp only [writtenAction, action?, h.reads d rest hd]⟩
  | none =>
      refine ⟨⟨'E', _, rfl, rfl, rfl, by decide⟩, fun d rest hd => ?_⟩
      have hinteger : integer? ("ERROR".toList ++ d :: rest) = none := by
        simp [integer?, natural?]
      have hword : word? ("ERROR".toList ++ d :: rest) = some ("ERROR", d :: rest) :=
        word?_append (by decide) (by decide) hd
      simp only [writtenAction, action?, hinteger, hword]

theorem variant?_append {enumeration name : String}
    (hword : enumeration.toList.all isWordChar = true) (hne : enumeration ≠ "")
    (hname : IsVariantName name) (rest : List Char) :
    variant? enumeration (enumeration.toList ++ ':' :: ':' :: (name.toList ++ ')' :: rest)) =
      some (name, ')' :: rest) := by
  have hread : word? (enumeration.toList ++ ':' :: ':' :: (name.toList ++ ')' :: rest)) =
      some (enumeration, ':' :: ':' :: (name.toList ++ ')' :: rest)) :=
    word?_append hword hne rfl
  simp only [variant?, hread, if_true]
  exact run?_append hname.2 hname.1 (by decide)

/-- An element of the array of error codes as it is written, with its comma. -/
def writtenErrorCode : Option String → String
  | some variant => "Some(ErrorCode::" ++ variant ++ "),"
  | none => "None,"

@[simp] theorem writtenErrorCode_none : writtenErrorCode none = "None," := rfl

@[simp] theorem writtenErrorCode_some (variant : String) :
    writtenErrorCode (some variant) = "Some(ErrorCode::" ++ variant ++ ")," := rfl

theorem item_noErrorCode : Item slashes errorCode? "None".toList none := by
  refine ⟨⟨'N', _, rfl, rfl, rfl, by decide⟩, fun d rest hd => ?_⟩
  have hword : word? ("None".toList ++ d :: rest) = some ("None", d :: rest) :=
    word?_append (by decide) (by decide) hd
  simp only [errorCode?, hword]

theorem item_variant {variant : String} (h : IsVariantName variant) :
    Item slashes errorCode? ("Some(ErrorCode::" ++ variant ++ ")").toList (some variant) := by
  have htext : ("Some(ErrorCode::" ++ variant ++ ")").toList =
      "Some(".toList ++ ("ErrorCode".toList ++ ':' :: ':' :: (variant.toList ++ [')'])) := by
    simp [String.toList_append]
  have hword (cs : List Char) : word? ("Some(".toList ++ cs) = some ("Some", '(' :: cs) := by
    simp [word?, run?, isWordChar]
  have hvariant (rest : List Char) := variant?_append (by decide : "ErrorCode".toList.all
    isWordChar = true) (by decide) h rest
  refine ⟨⟨'S', _, htext, rfl, rfl, by decide⟩, fun d rest _ => ?_⟩
  simp only [htext, List.append_assoc, List.cons_append, List.nil_append, errorCode?, hword,
    hvariant]

theorem listed_errorCode {o : Option String} (h : ∀ variant ∈ o, IsVariantName variant) :
    Listed slashes .square errorCode? [o] (writtenErrorCode o).toList := by
  cases o with
  | none => exact item_noErrorCode.listed
  | some variant => simpa [String.toList_append] using (item_variant (h variant rfl)).listed

theorem item_simulatorRow {row : SimulatorRow} (h : IsVariantName row.result) :
    Item slashes simulatorRow?
      ("(" ++ toString row.pops ++ ", NonterminalId::" ++ row.result ++ ")").toList row := by
  have htext : ("(" ++ toString row.pops ++ ", NonterminalId::" ++ row.result ++ ")").toList =
      '(' :: (decimal row.pops ++ ',' :: ' ' ::
        ("NonterminalId".toList ++ ':' :: ':' :: (row.result.toList ++ [')']))) := by
    simp [String.toList_append, decimal]
  have hvariant (rest : List Char) := variant?_append (by decide : "NonterminalId".toList.all
    isWordChar = true) (by decide) h rest
  refine ⟨⟨'(', _, htext, rfl, rfl, by decide⟩, fun d rest _ => ?_⟩
  simp only [htext, List.append_assoc, List.cons_append, List.nil_append, simulatorRow?,
    natural?_decimal row.pops (d := ',') rfl, hvariant]

section Rows

variable {α γ : Type} {item : Reader α}

theorem listed_cells (xs : List γ) {v : γ → α} {w : γ → String}
    (h : ∀ x ∈ xs, Item slashes item (w x).toList (v x)) :
    Listed slashes .square item (xs.map v) (cells (xs.map w)).text.toList := by
  refine Listed.code ?_ 1
  simpa [String.toList_intercalate, Function.comp_def] using listed_intercalate xs h

theorem listed_text_append {as as' : List α} {lines lines' : List Line}
    (h : Listed slashes .square item as (text lines).toList)
    (h' : Listed slashes .square item as' (text lines').toList) :
    Listed slashes .square item (as ++ as') (text (lines ++ lines')).toList := by
  rw [toList_text_append]
  exact h.append h'

theorem listed_separated {xs : List γ} {v : γ → List α} {block : γ → List Line}
    (h : ∀ x ∈ xs, Listed slashes .square item (v x) (text (block x)).toList) :
    Listed slashes .square item (xs.flatMap v)
      (text (SourceUnit.separated (xs.map block))).toList := by
  have hblank : Listed slashes .square item [] (text [blank]).toList :=
    listed_of_blank (blank_of_isWhitespace (by simp [toList_text, blank, Line.text]))
  induction xs with
  | nil => exact listed_of_blank (by simp [SourceUnit.separated, blank_nil])
  | cons x xs ih =>
      rw [List.forall_mem_cons] at h
      cases xs with
      | nil => simpa [SourceUnit.separated] using h.1
      | cons y ys =>
          have hx : Listed slashes .square item (v x) (text (block x ++ [blank])).toList := by
            simpa using listed_text_append h.1 hblank
          exact listed_text_append hx (ih h.2)

theorem listed_actionRows (rows : List (String × List (Option Int))) :
    Listed slashes .square action? (rows.flatMap Prod.snd)
      (text (SourceUnit.separated
        (rows.zipIdx.map fun s => SourceUnit.actionLines s.2 s.1))).toList := by
  rw [← flatMap_zipIdx_fst rows Prod.snd]
  refine listed_separated fun s _ => ?_
  have hcomment : Listed slashes .square action? [] (traceComment s.1.1 s.2).text.toList :=
    listed_of_blank (blank_comment_line rfl _ _)
  have hcells : Listed slashes .square action? (s.1.2.map id)
      (cells (s.1.2.map writtenAction)).text.toList :=
    listed_cells s.1.2 fun o _ => item_action o
  have hlines : SourceUnit.actionLines s.2 s.1 =
      [traceComment s.1.1 s.2, cells (s.1.2.map writtenAction)] := rfl
  rw [List.map_id] at hcells
  simpa [toList_text, hlines] using hcomment.append hcells

theorem listed_gotoRows (rows : List (List Nat)) :
    Listed slashes .square natural? (rows.flatMap id)
      (text (rows.map fun row => cells (row.map fun n => toString n))).toList := by
  rw [toList_text, List.flatMap_map]
  refine listed_flatMap fun row _ => ?_
  have hcells : Listed slashes .square natural? (row.map id)
      (cells (row.map fun n => toString n)).text.toList :=
    listed_cells row fun n _ => item_natural rfl n
  rwa [List.map_id] at hcells

theorem listed_stateErrorRows {rows : List (String × Option String)}
    (h : ∀ row ∈ rows, ∀ variant ∈ row.2, IsVariantName variant) :
    Listed slashes .square errorCode? (rows.map Prod.snd)
      (text (rows.zipIdx.flatMap fun s =>
        [traceComment s.1.1 s.2, Line.code 1 (writtenErrorCode s.1.2)])).toList := by
  rw [toList_text, List.flatMap_assoc, ← map_zipIdx_fst rows Prod.snd]
  refine listed_map fun s hs => ?_
  have hcomment : Listed slashes .square errorCode? [] (traceComment s.1.1 s.2).text.toList :=
    listed_of_blank (blank_comment_line rfl _ _)
  have hcode := (listed_errorCode (h s.1 (List.fst_mem_of_mem_zipIdx hs))).code 1
  simpa using hcomment.append hcode

theorem listed_simulatorRows {rows : List SimulatorRow}
    (h : ∀ row ∈ rows, IsVariantName row.result) :
    Listed slashes .square simulatorRow? rows
      (text ((rows.map fun r =>
        "(" ++ toString r.pops ++ ", NonterminalId::" ++ r.result ++ "),").map
          (Line.code 1))).toList := by
  rw [toList_text, List.flatMap_map, List.flatMap_map]
  have hlisted : Listed slashes .square simulatorRow? (rows.map id) (rows.flatMap fun r =>
      (Line.code 1 ("(" ++ toString r.pops ++ ", NonterminalId::" ++ r.result ++
        "),")).text.toList) := by
    refine listed_map fun r hr => Listed.code ?_ 1
    simpa [String.toList_append] using (item_simulatorRow (h r hr)).listed
  rwa [List.map_id] at hlisted

end Rows

/-! ### Arrays -/

theorem definition?_array {α : Type} {item : Reader α} {as : List α} {opening t : String} {n : Nat}
    {before body after : List Line} (hbody : Listed slashes .square item as (text body).toList)
    (h : OpenedOnce opening (before ++ .code 0 t :: (body ++ .code 0 "];" :: after)))
    (ht : t.toList = opening.toList ++ ((toString n).toList ++ "] = [".toList)) (hne : t ≠ "") :
    definition? opening (array? item) ';'
      (before ++ .code 0 t :: (body ++ .code 0 "];" :: after)) = some (n, as) := by
  obtain ⟨rest, hread⟩ : ∃ rest, sequence? slashes .square item ('[' :: '\n' ::
      (text (body ++ .code 0 "];" :: after)).toList) = some (as, ';' :: rest) :=
    sequence?_text hbody rfl
  have hvalue : array? item ((toString n).toList ++ "] = [".toList ++ '\n' ::
      (text (body ++ .code 0 "];" :: after)).toList) = some ((n, as), ';' :: rest) := by
    have hsplit : "] = [".toList ++ '\n' :: (text (body ++ .code 0 "];" :: after)).toList =
        ']' :: ' ' :: '=' :: ' ' :: '[' :: '\n' ::
          (text (body ++ .code 0 "];" :: after)).toList := rfl
    rw [toList_toString_nat, List.append_assoc, hsplit, array?, natural?_decimal n rfl]
    simp only [Option.bind_some, hread]
    rfl
  exact definition?_eq_some h ht hne hvalue

/-! ### Flat tables -/

section Flat

variable {α β : Type} {f : α → List β} {width : Nat} {xs : List α}

theorem length_flatMap_of_width (h : ∀ x ∈ xs, (f x).length = width) :
    (xs.flatMap f).length = xs.length * width := by
  induction xs with
  | nil => simp
  | cons x xs ih =>
      rw [List.forall_mem_cons] at h
      rw [List.flatMap_cons, List.length_append, h.1, ih h.2, List.length_cons, Nat.succ_mul,
        Nat.add_comm]

/-- The element of a flat table in a row and a column. -/
theorem getElem?_flatMap_of_width (h : ∀ x ∈ xs, (f x).length = width) {i j : Nat} {x : α}
    (hx : xs[i]? = some x) (hj : j < width) :
    (xs.flatMap f)[i * width + j]? = (f x)[j]? := by
  induction xs generalizing i with
  | nil => cases hx
  | cons y xs ih =>
      rw [List.forall_mem_cons] at h
      rw [List.flatMap_cons]
      cases i with
      | zero =>
          obtain rfl : y = x := Option.some.inj hx
          rw [Nat.zero_mul, Nat.zero_add, List.getElem?_append_left (h.1 ▸ hj)]
      | succ i =>
          have hle : (f y).length ≤ (i + 1) * width + j := by
            rw [h.1, Nat.succ_mul]
            omega
          have hsub : (i + 1) * width + j - (f y).length = i * width + j := by
            rw [h.1, Nat.succ_mul]
            omega
          rw [List.getElem?_append_right hle, hsub, ih h.2 hx]

end Flat

end ParserTables.Compiled
