import ParserTables.Text.Letter
import ParserTables.Text.Split
import ParserTables.Proofs.Source.Definition

/-!
# Deleting comments

A reader of a text that knows nothing of how it was generated takes a line for a comment if its
first text that is not blank is the marker of comments. Comments of a unit are such lines, whatever
their texts are, since no text breaks its line. Deleting all such lines therefore leaves nothing of
the comments, and what it leaves of the code does not depend on them.
-/

namespace ParserTables.Source

open ParserTables.Text (isBlank pushFront)

/-- Whether a character ends a line. There are readers for which a carriage return does. -/
def isBreak (returns : Bool) (c : Char) : Bool := c == '\n' || returns && c == '\r'

/-- The lines of a text, each with the break that ends it. -/
def brokenLines (returns : Bool) : List Char → List (List Char)
  | [] => []
  | c :: rest =>
    if isBreak returns c then [c] :: brokenLines returns rest
    else pushFront c (brokenLines returns rest)

/-- Whether the first text on a line that is not blank starts with the marker of comments. -/
def opensComment (marker : String) (line : List Char) : Bool :=
  decide (marker.toList <+: line.dropWhile isBlank)

/-- The characters that are left of a text if the lines that are comments are deleted. -/
def uncommented (returns : Bool) (marker : String) (cs : List Char) : List Char :=
  ((brokenLines returns cs).filter fun line => !opensComment marker line).flatten

/-- A text without the lines that are comments. -/
def withoutComments (returns : Bool) (marker text : String) : String :=
  String.ofList (uncommented returns marker text.toList)

/-- Whether a line was generated as a comment with this marker. -/
def Line.isCommentWith (marker : String) : Line → Bool
  | .code _ _ => false
  | .comment _ m _ => m == marker

/-- The lines that were not generated as comments with this marker. -/
def codeLines (marker : String) (lines : List Line) : List Line :=
  lines.filter fun line => !line.isCommentWith marker

/-- A marker starts with a character that is not blank, and stays on its line. -/
structure IsMarker (marker : String) : Prop where
  visible : ∃ c cs, marker.toList = c :: cs ∧ isBlank c = false
  unbroken : ∀ c ∈ marker.toList, isBreak true c = false

variable {returns : Bool} {marker : String}

theorem isBreak_newline : isBreak returns '\n' = true := rfl

theorem isBreak_of_returns {c : Char} (h : isBreak true c = false) :
    isBreak returns c = false := by
  unfold isBreak at h ⊢
  simp only [Bool.or_eq_false_iff, Bool.and_eq_false_iff] at h ⊢
  exact ⟨h.1, .inr (by simpa using h.2)⟩

/-! ### Lines -/

theorem brokenLines_cons (c : Char) (cs : List Char) :
    brokenLines returns (c :: cs) =
      if isBreak returns c then [c] :: brokenLines returns cs
      else pushFront c (brokenLines returns cs) := rfl

theorem brokenLines_ne_nil {cs : List Char} (h : cs ≠ []) : brokenLines returns cs ≠ [] := by
  cases cs with
  | nil => exact absurd rfl h
  | cons c rest =>
      rw [brokenLines_cons]
      split
      · simp
      · cases brokenLines returns rest <;> simp [pushFront]

theorem pushFront_append (c : Char) {lines : List (List Char)} (h : lines ≠ [])
    (others : List (List Char)) :
    pushFront c (lines ++ others) = pushFront c lines ++ others := by
  cases lines with
  | nil => exact absurd rfl h
  | cons line rest => rfl

/-- What follows a break has its own lines. -/
theorem brokenLines_append_break {b : Char} (hb : isBreak returns b = true) (cs rest : List Char) :
    brokenLines returns (cs ++ b :: rest) =
      brokenLines returns (cs ++ [b]) ++ brokenLines returns rest := by
  induction cs with
  | nil => simp [brokenLines_cons, hb, brokenLines]
  | cons c cs ih =>
      rw [List.cons_append, List.cons_append, brokenLines_cons, brokenLines_cons, ih]
      split
      · rw [List.cons_append]
      · rw [pushFront_append _ (brokenLines_ne_nil (by simp))]

theorem brokenLines_of_unbroken {b : Char} (hb : isBreak returns b = true) {cs : List Char}
    (hcs : ∀ c ∈ cs, isBreak returns c = false) :
    brokenLines returns (cs ++ [b]) = [cs ++ [b]] := by
  induction cs with
  | nil => simp [brokenLines_cons, hb, brokenLines]
  | cons c cs ih =>
      rw [List.forall_mem_cons] at hcs
      rw [List.cons_append, brokenLines_cons, hcs.1, ih hcs.2]
      rfl

/-! ### Lines of a unit -/

@[simp] theorem codeLines_code_cons (indent : Nat) (text : String) (lines : List Line) :
    codeLines marker (.code indent text :: lines) = .code indent text :: codeLines marker lines :=
  rfl

@[simp] theorem codeLines_comment_cons (indent : Nat) (text : String) (lines : List Line) :
    codeLines marker (.comment indent marker text :: lines) = codeLines marker lines := by
  simp [codeLines, Line.isCommentWith]

theorem codeLines_comment_cons_of_ne {m : String} (h : m ≠ marker) (indent : Nat)
    (text : String) (lines : List Line) :
    codeLines marker (.comment indent m text :: lines) =
      .comment indent m text :: codeLines marker lines := by
  simp [codeLines, Line.isCommentWith, h]

@[simp] theorem codeLines_append (lines lines' : List Line) :
    codeLines marker (lines ++ lines') = codeLines marker lines ++ codeLines marker lines' :=
  List.filter_append _ _

theorem codeLines_flatMap {α : Type} (as : List α) (f : α → List Line) :
    codeLines marker (as.flatMap f) = as.flatMap fun a => codeLines marker (f a) :=
  List.filter_flatMap

/-! ### Deleting -/

theorem uncommented_append_break {b : Char} (hb : isBreak returns b = true)
    (cs rest : List Char) :
    uncommented returns marker (cs ++ b :: rest) =
      uncommented returns marker (cs ++ [b]) ++ uncommented returns marker rest := by
  rw [uncommented, brokenLines_append_break hb, List.filter_append, List.flatten_append]
  rfl

theorem isBreak_of_mem_flatten {text : String} {c : Char} (h : c ∈ (flatten text).toList) :
    isBreak true c = false := by
  rw [flatten, String.toList_ofList, List.mem_map] at h
  obtain ⟨d, -, rfl⟩ := h
  split
  · rfl
  · next hd => simpa [isBreak] using hd

theorem dropWhile_indentation (indent : Nat) (cs : List Char) :
    ((indentation indent).toList ++ cs).dropWhile isBlank = cs.dropWhile isBlank := by
  have hspace : isBlank ' ' = true := rfl
  rw [indentation, String.toList_ofList, List.dropWhile_append_of_pos]
  intro c hc
  rw [List.eq_of_mem_replicate hc, hspace]

/-- A comment is one line, and the line opens with the marker. -/
theorem uncommented_comment (hmarker : IsMarker marker) (indent : Nat) (text : String) :
    uncommented returns marker (Line.comment indent marker text).text.toList = [] := by
  obtain ⟨c, cs, hc, hvisible⟩ := hmarker.visible
  have htext : (Line.comment indent marker text).text.toList =
      ((indentation indent).toList ++ (marker.toList ++ ' ' :: (flatten text).toList)) ++
        ['\n'] := by
    simp [Line.text]
  have hunbroken : ∀ d ∈ (indentation indent).toList ++
      (marker.toList ++ ' ' :: (flatten text).toList), isBreak returns d = false := by
    intro d hd
    refine isBreak_of_returns ?_
    rw [List.mem_append, List.mem_append, List.mem_cons] at hd
    rcases hd with hd | hd | rfl | hd
    · rw [indentation, String.toList_ofList] at hd
      rw [List.eq_of_mem_replicate hd]
      rfl
    · exact hmarker.unbroken d hd
    · rfl
    · exact isBreak_of_mem_flatten hd
  have hopens : opensComment marker ((indentation indent).toList ++
      (marker.toList ++ ' ' :: (flatten text).toList) ++ ['\n']) = true := by
    rw [opensComment, decide_eq_true_eq, List.append_assoc, dropWhile_indentation, hc,
      List.cons_append, List.cons_append, List.dropWhile_cons_of_neg (by simp [hvisible])]
    exact ⟨' ' :: (flatten text).toList ++ ['\n'], by simp⟩
  rw [htext, uncommented, brokenLines_of_unbroken isBreak_newline hunbroken, List.filter_cons,
    hopens]
  rfl

theorem exists_toList_text (line : Line) : ∃ cs, line.text.toList = cs ++ ['\n'] := by
  cases line with
  | comment indent marker text => exact ⟨_, by rw [Line.text, String.toList_append]; rfl⟩
  | code indent text =>
      rw [Line.text]
      split
      · exact ⟨[], rfl⟩
      · exact ⟨_, by rw [String.toList_append]; rfl⟩

/-- Deleting goes line by line. -/
theorem uncommented_text_cons (line : Line) (lines : List Line) :
    uncommented returns marker (text (line :: lines)).toList =
      uncommented returns marker line.text.toList ++
        uncommented returns marker (text lines).toList := by
  obtain ⟨cs, hcs⟩ := exists_toList_text line
  rw [toList_text, List.flatMap_cons, ← toList_text, hcs, List.append_assoc,
    List.singleton_append, uncommented_append_break isBreak_newline]

theorem uncommented_text (hmarker : IsMarker marker) (lines : List Line) :
    uncommented returns marker (text lines).toList =
      uncommented returns marker (text (codeLines marker lines)).toList := by
  induction lines with
  | nil => rfl
  | cons line lines ih =>
      rw [uncommented_text_cons, ih]
      cases line with
      | code indent text => rw [codeLines_code_cons, uncommented_text_cons]
      | comment indent m text =>
          by_cases hm : m = marker
          · subst hm
            rw [uncommented_comment hmarker, codeLines_comment_cons, List.nil_append]
          · rw [codeLines_comment_cons_of_ne hm, uncommented_text_cons]

/-- Without its comments, the text of a unit is that of its other lines. -/
theorem withoutComments_text_congr (hmarker : IsMarker marker) {lines lines' : List Line}
    (h : codeLines marker lines = codeLines marker lines') :
    withoutComments returns marker (text lines) = withoutComments returns marker (text lines') := by
  rw [withoutComments, withoutComments, uncommented_text hmarker, h, ← uncommented_text hmarker]

end ParserTables.Source
