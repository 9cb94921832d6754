import Mathlib
import ParserTables.Proofs.Interpreted.Literal

/-!
# What a literal looks like

A literal stands on one line and shows every character in it, and its quotes are known from the
text. It is read as the text whatever comes behind it, so it determines the text
(`literal_faithful`).
-/

namespace ParserTables.Interpreted

open ParserTables.Text

/-! ### Visible characters -/

/-- The characters that end a line. -/
def lineBreaks : List Char :=
  ['\n', '\x0b', '\x0c', '\r', '\x1c', '\x1d', '\x1e', '\x85', '\u2028', '\u2029']

/-- A line is ended by a control character or a blank. -/
theorem isControl_or_isBlank_of_mem_lineBreaks {c : Char} (h : c ∈ lineBreaks) :
    isControl c = true ∨ isBlank c = true := by
  have hall : lineBreaks.all fun c => isControl c || isBlank c := rfl
  exact Bool.or_eq_true_iff.1 (List.all_eq_true.1 hall c h)

theorem not_isControl_of_isVisible {c : Char} (h : isVisible c = true) : isControl c = false := by
  rw [isVisible, Bool.or_eq_true, beq_iff_eq] at h
  rcases h with rfl | h
  · rfl
  · simp only [Bool.not_eq_true', Bool.or_eq_false_iff] at h
    exact h.1.1

theorem not_mem_lineBreaks_of_isVisible {c : Char} (h : isVisible c = true) :
    c ∉ lineBreaks := by
  rw [isVisible, Bool.or_eq_true, beq_iff_eq] at h
  rcases h with rfl | h
  · decide
  · simp only [Bool.not_eq_true', Bool.or_eq_false_iff] at h
    intro hbreak
    rcases isControl_or_isBlank_of_mem_lineBreaks hbreak with hcontrol | hblank
    · exact absurd hcontrol (by simp [h.1.1])
    · exact absurd hblank (by simp [h.1.2])

theorem isVisible_of_mem_hex {width n : Nat} {c : Char} (h : c ∈ hex width n) :
    isVisible c = true := by
  have hall : ∀ d < 16, isVisible (Nat.digitChar d) = true := by decide
  obtain ⟨d, hd, rfl⟩ := exists_digitChar_of_mem_hex h
  exact hall d hd

theorem isVisible_of_mem_codePointEscape {c d : Char} (h : d ∈ codePointEscape c) :
    isVisible d = true := by
  simp only [codePointEscape] at h
  split_ifs at h with h₂ h₄
  all_goals
    rcases List.mem_append.1 h with h | h
    · rcases List.mem_pair.1 h with rfl | rfl <;> rfl
    · exact isVisible_of_mem_hex h

/-- Whatever is written for a character is visible. -/
theorem isVisible_of_mem_literalChar {quote c d : Char} (hquote : isVisible quote = true)
    (h : d ∈ literalChar quote c) : isVisible d = true := by
  unfold literalChar at h
  split_ifs at h with h₁ h₂ h₃ h₄ h₅ h₆
  · rcases List.mem_pair.1 h with rfl | rfl <;> rfl
  · rcases List.mem_pair.1 h with rfl | rfl <;> rfl
  · rcases List.mem_pair.1 h with rfl | rfl <;> rfl
  · rcases List.mem_pair.1 h with rfl | rfl <;> rfl
  · rcases List.mem_pair.1 h with rfl | rfl
    · rfl
    · rwa [h₅]
  · rwa [List.mem_singleton.1 h]
  · exact isVisible_of_mem_codePointEscape h

theorem isVisible_quoteOf (s : List Char) : isVisible (quoteOf s) = true := by
  rcases quoteOf_eq s with h | h <;> rw [h] <;> decide

theorem isVisible_of_mem_literal {s : String} {c : Char} (h : c ∈ (literal s).toList) :
    isVisible c = true := by
  have hquote := isVisible_quoteOf s.toList
  rw [← List.append_nil (literal s).toList, toList_literal_append, List.mem_cons, List.mem_append,
    List.mem_singleton, List.mem_flatMap] at h
  rcases h with rfl | ⟨d, -, hd⟩ | rfl
  · exact hquote
  · exact isVisible_of_mem_literalChar hquote hd
  · exact hquote

/-! ### Quotes -/

/-- A text between two occurrences of a quote. -/
def Delimited (quote : Char) (text : String) : Prop :=
  ∃ body, text.toList = quote :: body ++ [quote]

theorem delimited_literal_iff {quote : Char} {s : String} :
    Delimited quote (literal s) ↔ quote = quoteOf s.toList := by
  have hshape := toList_literal_append s []
  rw [List.append_nil] at hshape
  constructor
  · rintro ⟨body, hbody⟩
    rw [hshape] at hbody
    exact (List.cons_eq_cons.1 hbody).1.symm
  · rintro rfl
    exact ⟨_, hshape⟩

theorem quoteOf_eq_double_iff {s : List Char} :
    '\x22' = quoteOf s ↔ '\x27' ∈ s ∧ '\x22' ∉ s := by
  unfold quoteOf
  split_ifs with h
  · exact iff_of_true rfl h
  · exact iff_of_false (by decide) h

theorem quoteOf_eq_single_iff {s : List Char} :
    '\x27' = quoteOf s ↔ ¬ ('\x27' ∈ s ∧ '\x22' ∉ s) := by
  unfold quoteOf
  split_ifs with h
  · exact iff_of_false (by decide) (not_not_intro h)
  · exact iff_of_true rfl h

/-- A literal is read as its text, whatever comes behind it; it has no control character and no line
break in it; it stands between double quotes exactly if the text has an apostrophe and no double
quote, and otherwise between apostrophes; and different texts have different literals. -/
theorem literal_faithful :
    (∀ (s : String) (rest : List Char), enclosed? ((literal s).toList ++ rest) = some (s, rest)) ∧
    (∀ s : String, ∀ c ∈ (literal s).toList, isControl c = false ∧ c ∉ lineBreaks) ∧
    (∀ s : String,
      (Delimited '\x22' (literal s) ↔ '\x27' ∈ s.toList ∧ '\x22' ∉ s.toList) ∧
      (Delimited '\x27' (literal s) ↔ ¬ ('\x27' ∈ s.toList ∧ '\x22' ∉ s.toList))) ∧
    Function.Injective literal := by
  refine ⟨enclosed?_literal, fun s c hc => ?_, fun s => ?_, fun s t h => ?_⟩
  · have hvisible := isVisible_of_mem_literal hc
    exact ⟨not_isControl_of_isVisible hvisible, not_mem_lineBreaks_of_isVisible hvisible⟩
  · rw [delimited_literal_iff, delimited_literal_iff]
    exact ⟨quoteOf_eq_double_iff, quoteOf_eq_single_iff⟩
  · have hs := enclosed?_literal s []
    rw [h, enclosed?_literal] at hs
    exact (congrArg Prod.fst (Option.some.inj hs)).symm

/-- Both quotes, a backslash, and characters that are escaped in each width, with digits behind
them. -/
def crowdedText : String :=
  String.ofList ['\x27', '\x22', '\\', '\x00', '4', '\u200b', '4', Char.ofNat 0xF0000, '4']

/-- The crowded text in front of one more quote, and a character of its literal. -/
theorem literal_faithful_crowded :
    enclosed? ((literal crowdedText).toList ++ ['\x27']) = some (crowdedText, ['\x27']) ∧
    '\\' ∈ (literal crowdedText).toList ∧ isControl '\\' = false ∧ '\\' ∉ lineBreaks := by
  have hmem : '\\' ∈ (literal crowdedText).toList := by decide +kernel
  exact ⟨literal_faithful.1 _ _, hmem, literal_faithful.2.1 _ _ hmem⟩

end ParserTables.Interpreted
