import Mathlib.Data.List.Basic
import ParserTables.Proofs.Source.Reading

/-!
# Definitions in generated source

Where a definition stands in the lines of a unit, and what it defines. A definition is opened by a
line of code that is not indented; the lines that belong to it are indented, up to the line that
closes it. `definition?` reads the value that follows the opening, and `block?` takes the lines of
code between the opening and the closing line. Both ask that the definition is the only one with
its opening.
-/

namespace ParserTables.Source

/-- The text of a line of code, if there is any. -/
def Line.code? : Line → Option String
  | .code _ text => if text = "" then none else some text
  | .comment _ _ _ => none

/-- The text of a line of code that is not indented. -/
def Line.toplevel? : Line → Option String
  | .code 0 text => if text = "" then none else some text
  | _ => none

@[simp] theorem code?_comment (indent : Nat) (marker text : String) :
    (Line.comment indent marker text).code? = none := rfl

theorem code?_code {text : String} (h : text ≠ "") (indent : Nat) :
    (Line.code indent text).code? = some text := if_neg h

@[simp] theorem toplevel?_comment (indent : Nat) (marker text : String) :
    (Line.comment indent marker text).toplevel? = none := rfl

@[simp] theorem toplevel?_indented (indent : Nat) (text : String) :
    (Line.code (indent + 1) text).toplevel? = none := rfl

@[simp] theorem toplevel?_blank : blank.toplevel? = none := rfl

theorem toplevel?_code {text : String} (h : text ≠ "") :
    (Line.code 0 text).toplevel? = some text := if_neg h

/-- What follows `opening` on a line that is not indented and starts with it. -/
def Line.after? (opening : String) (line : Line) : Option (List Char) :=
  line.toplevel?.bind fun text => text.toList.dropPrefix? opening.toList

/-- The lines with an opening, each with what follows the opening and the lines that follow. -/
def openings (opening : String) : List Line → List (List Char × List Line)
  | [] => []
  | line :: rest =>
    match line.after? opening with
    | some cs => (cs, rest) :: openings opening rest
    | none => openings opening rest

/-- What follows an opening that occurs exactly once. -/
def opening? (opening : String) (lines : List Line) : Option (List Char × List Line) :=
  match openings opening lines with
  | [o] => some o
  | _ => none

/-- The value that is read behind the only such opening, up to the character `closing`. -/
def definition? {α : Type} (opening : String) (value? : Reader α) (closing : Char)
    (lines : List Line) : Option α :=
  (opening? opening lines).bind fun o =>
    (value? (o.1 ++ '\n' :: (text o.2).toList)).bind fun p =>
      if p.2.head? = some closing then some p.1 else none

/-- What follows the only such opening on its line, and the lines of code from there to the line
`closing`, which is the next one that is not indented. -/
def block? (opening closing : String) (lines : List Line) : Option (List Char × List String) :=
  (opening? opening lines).bind fun o =>
    let inside := o.2.takeWhile fun line => line.toplevel?.isNone
    if o.2[inside.length]? = some (.code 0 closing) then some (o.1, inside.filterMap Line.code?)
    else none

/-- Whether a line with this text has the opening. -/
def opens (opening t : String) : Bool := decide (opening.toList <+: t.toList)

/-- Exactly one of the lines that are not indented has the opening. -/
def OpenedOnce (opening : String) (lines : List Line) : Prop :=
  (lines.filterMap Line.toplevel?).countP (opens opening) = 1

theorem opens_eq_false {opening t : String} (h : ¬ opening.toList <+: t.toList) :
    opens opening t = false := decide_eq_false h

theorem countP_opens (opening : String) (ts : List String) :
    ts.countP (opens opening) =
      (ts.map String.toList).countP fun cs => decide (opening.toList <+: cs) := by
  rw [List.countP_map]
  rfl

section Openings

variable {opening t : String} {lines before after : List Line} {cs : List Char}

theorem mem_toplevel (ht : t ≠ "") :
    t ∈ lines.filterMap Line.toplevel? ↔ .code 0 t ∈ lines := by
  rw [List.mem_filterMap]
  constructor
  · rintro ⟨line, hline, h⟩
    unfold Line.toplevel? at h
    split at h
    · split at h
      · cases h
      · cases h
        exact hline
    · cases h
  · exact fun h => ⟨_, h, by simp [Line.toplevel?, ht]⟩

theorem isSome_dropPrefix? (opening t : String) :
    (t.toList.dropPrefix? opening.toList).isSome = opens opening t := by
  rw [opens, Bool.eq_iff_iff, decide_eq_true_iff, Option.isSome_iff_exists]
  simp only [List.dropPrefix?_eq_some_iff, beq_iff_eq]
  constructor
  · rintro ⟨cs, p, hp, rfl⟩
    exact ⟨cs, hp.symm⟩
  · rintro ⟨cs, hcs⟩
    exact ⟨cs, _, hcs.symm, rfl⟩

theorem length_openings (opening : String) (lines : List Line) :
    (openings opening lines).length =
      (lines.filterMap Line.toplevel?).countP (opens opening) := by
  induction lines with
  | nil => rfl
  | cons line lines ih =>
      rw [openings, Line.after?, List.filterMap_cons]
      cases line.toplevel? with
      | none => exact ih
      | some t =>
          rw [Option.bind_some, List.countP_cons, ← isSome_dropPrefix?, ← ih]
          cases t.toList.dropPrefix? opening.toList <;> simp

/-- Lines that are not opened this way can be left out. -/
theorem openings_append_of_not_opens (after : List Line)
    (h : ∀ t ∈ before.filterMap Line.toplevel?, opens opening t = false) :
    openings opening (before ++ after) = openings opening after := by
  induction before with
  | nil => rfl
  | cons line before ih =>
      rw [List.filterMap_cons] at h
      rw [List.cons_append, openings, Line.after?]
      cases hline : line.toplevel? with
      | none =>
          rw [hline] at h
          exact ih h
      | some t =>
          rw [hline, List.forall_mem_cons, ← isSome_dropPrefix?] at h
          rw [Option.bind_some, Option.not_isSome_iff_eq_none.1 (Bool.eq_false_iff.1 h.1)]
          exact ih h.2

theorem after?_eq_some (h : t.toList = opening.toList ++ cs) (ht : t ≠ "") :
    (Line.code 0 t).after? opening = some cs := by
  rw [Line.after?, Line.toplevel?, if_neg ht, Option.bind_some]
  exact List.dropPrefix?_eq_some_iff.2 ⟨opening.toList, h, beq_self_eq_true _⟩

theorem mem_openings {line : Line} (h : line.after? opening = some cs) (before after : List Line) :
    (cs, after) ∈ openings opening (before ++ line :: after) := by
  induction before with
  | nil =>
      rw [List.nil_append, openings, h]
      exact List.mem_cons_self
  | cons l before ih =>
      rw [List.cons_append, openings]
      split
      · exact List.mem_cons_of_mem _ ih
      · exact ih

theorem opening?_eq_some (h : OpenedOnce opening (before ++ .code 0 t :: after))
    (ht : t.toList = opening.toList ++ cs) (hne : t ≠ "") :
    opening? opening (before ++ .code 0 t :: after) = some (cs, after) := by
  have hmem := mem_openings (after?_eq_some ht hne) before after
  obtain ⟨o, ho⟩ := List.length_eq_one_iff.1 ((length_openings _ _).trans h)
  rw [ho, List.mem_singleton] at hmem
  rw [opening?, ho, hmem]

theorem definition?_eq_some {α : Type} {value? : Reader α} {closing : Char} {a : α}
    {rest : List Char} (h : OpenedOnce opening (before ++ .code 0 t :: after))
    (ht : t.toList = opening.toList ++ cs) (hne : t ≠ "")
    (hread : value? (cs ++ '\n' :: (text after).toList) = some (a, closing :: rest)) :
    definition? opening value? closing (before ++ .code 0 t :: after) = some a := by
  rw [definition?, opening?_eq_some h ht hne]
  simp [hread]

theorem block?_eq_some {closing : String} {inside rest : List Line}
    (h : OpenedOnce opening (before ++ .code 0 t :: (inside ++ .code 0 closing :: rest)))
    (ht : t.toList = opening.toList ++ cs) (hne : t ≠ "")
    (hinside : ∀ line ∈ inside, line.toplevel? = none) (hclosing : closing ≠ "") :
    block? opening closing (before ++ .code 0 t :: (inside ++ .code 0 closing :: rest)) =
      some (cs, inside.filterMap Line.code?) := by
  have htake : (inside ++ .code 0 closing :: rest).takeWhile (fun line => line.toplevel?.isNone) =
      inside := by
    rw [List.takeWhile_append_of_pos fun line hline => by rw [hinside line hline]; rfl]
    simp [Line.toplevel?, hclosing]
  rw [block?, opening?_eq_some h ht hne]
  simp [htake]

end Openings

/-! ### The text of lines -/

section Lines

variable {α : Type} {m : Marker} {b : Bracket} {item : Reader α}

theorem flatMap_zipIdx_fst {γ : Type} (xs : List γ) (f : γ → List α) :
    (xs.zipIdx.flatMap fun x => f x.1) = xs.flatMap f := by
  conv_rhs => rw [← List.zipIdx_map_fst 0 xs, List.flatMap_map]

theorem map_zipIdx_fst {γ : Type} (xs : List γ) (f : γ → α) :
    (xs.zipIdx.map fun x => f x.1) = xs.map f := by
  simpa only [List.map_eq_flatMap] using flatMap_zipIdx_fst xs fun x => [f x]

theorem toList_text (lines : List Line) :
    (text lines).toList = lines.flatMap fun line => line.text.toList := by
  simp [text, String.toList_join, List.flatMap_map]

theorem toList_text_append (lines lines' : List Line) :
    (text (lines ++ lines')).toList = (text lines).toList ++ (text lines').toList := by
  simp only [toList_text, List.flatMap_append]

theorem blank_indentation (indent : Nat) : Blank m (indentation indent).toList := by
  refine blank_of_isWhitespace fun c hc => ?_
  rw [indentation, String.toList_ofList] at hc
  rw [(List.mem_replicate.1 hc).2]
  rfl

theorem not_mem_flatten (s : String) : '\n' ∉ (flatten s).toList := by
  rw [flatten, String.toList_ofList, List.mem_map]
  rintro ⟨c, -, hc⟩
  split at hc
  · cases hc
  · next h => exact h (.inl hc)

theorem blank_comment_line {marker : String} (hm : marker.toList = m.first :: m.rest)
    (indent : Nat) (s : String) : Blank m (Line.comment indent marker s).text.toList := by
  have hcomment : Blank m (m.first :: (m.rest ++ ' ' :: (flatten s).toList ++ ['\n'])) :=
    blank_comment (by simp [not_mem_flatten])
  simpa [Line.text, hm] using (blank_indentation indent).append hcomment

/-- The text of a line of code, on its own line. -/
theorem Listed.code {as : List α} {t : String} (h : Listed m b item as t.toList) (indent : Nat) :
    Listed m b item as (Line.code indent t).text.toList := by
  have hbreak : Listed m b item [] ['\n'] := listed_of_blank (blank_of_isWhitespace (by simp))
  have hindent : Listed m b item [] (indentation indent).toList :=
    listed_of_blank (blank_indentation indent)
  by_cases ht : t = ""
  · subst ht
    simpa [Line.text] using h.append hbreak
  · simpa [Line.text, ht] using (hindent.append h).append hbreak

theorem listed_intercalate {γ : Type} (xs : List γ) {v : γ → α} {w : γ → List Char}
    (h : ∀ x ∈ xs, Item m item (w x) (v x)) :
    Listed m b item (xs.map v) (List.intercalate [' '] (xs.map fun x => w x ++ [','])) := by
  induction xs with
  | nil => exact listed_of_blank blank_nil
  | cons x xs ih =>
      rw [List.forall_mem_cons] at h
      cases xs with
      | nil => simpa [List.intercalate] using h.1.listed (b := b)
      | cons y ys =>
          have hspace : Listed m b item [] [' '] :=
            listed_of_blank (blank_of_isWhitespace (by simp))
          simpa [List.intercalate] using h.1.listed.append (hspace.append (ih h.2))

/-- The lines between an opening and a closing line make a table. -/
theorem sequence?_text {as : List α} {body rest : List Line}
    (h : Listed m b item as (text body).toList) {closing : String} {d : Char} {cs : List Char}
    (hclosing : closing.toList ++ ['\n'] = b.closing :: d :: cs) :
    ∃ rest', sequence? m b item (b.opening :: '\n' ::
      (text (body ++ .code 0 closing :: rest)).toList) = some (as, d :: rest') := by
  have hbreak : Listed m b item [] ['\n'] := listed_of_blank (blank_of_isWhitespace (by simp))
  have hne : closing ≠ "" := by rintro rfl; simp at hclosing
  have hbody := (hbreak.append h).body.sequence?_append (d :: cs ++ (text rest).toList)
  refine ⟨cs ++ (text rest).toList, ?_⟩
  have hline : (text (.code 0 closing :: rest)).toList =
      b.closing :: d :: cs ++ (text rest).toList := by
    rw [← hclosing]
    simp [toList_text, Line.text, hne, indentation]
  rw [toList_text_append, hline]
  simpa using hbody

/-- A definition by a table: its opening, the lines of the table, and the line that closes it. -/
theorem definition?_table {opening t closing : String} {before body after : List Line} {d : Char}
    {cs : List Char} {as : List α} (hbody : Listed m b item as (text body).toList)
    (h : OpenedOnce opening (before ++ .code 0 t :: (body ++ .code 0 closing :: after)))
    (ht : t.toList = opening.toList ++ [b.opening]) (hne : t ≠ "")
    (hclosing : closing.toList ++ ['\n'] = b.closing :: d :: cs) :
    definition? opening (sequence? m b item) d
      (before ++ .code 0 t :: (body ++ .code 0 closing :: after)) = some as := by
  obtain ⟨rest, hread⟩ := sequence?_text hbody hclosing
  exact definition?_eq_some h ht hne hread

end Lines

end ParserTables.Source
