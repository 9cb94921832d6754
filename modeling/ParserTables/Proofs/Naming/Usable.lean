import Mathlib
import ParserTables.Proofs.Naming.Shapes
import ParserTables.Proofs.Naming.SpelledOut

/-!
# Variant names that can be declared

The variant name of a symbol that is made of ASCII characters begins with a letter, and has letters
and digits behind it, whichever characters the symbol has. There is always a capital letter among
them. Of the words that the compiled target keeps for itself only `Self` has one, and the symbols
that are spelled `self` in one case, or `Self`, are the ones that take it
(`terminalName_usable_iff`).
-/

namespace ParserTables.Naming

open ParserTables.Grammar ParserTables.Text

/-- The words that the compiled target does not take as the name of a declaration. -/
def reservedWords : List String := [
  "abstract", "as", "async", "await", "become", "box", "break", "const", "continue", "crate", "do",
  "dyn", "else", "enum", "extern", "false", "final", "fn", "for", "gen", "if", "impl", "in", "let",
  "loop", "macro", "match", "mod", "move", "mut", "override", "priv", "pub", "ref", "return",
  "self", "Self", "static", "struct", "super", "trait", "true", "try", "type", "typeof", "unsafe",
  "unsized", "use", "virtual", "where", "while", "yield"]

/-- A letter with letters and digits behind it, at least one of them in upper case. -/
def IsVariant (name : List Char) : Prop :=
  Shaped (·.isAlpha) (·.isAlphanum) name ∧ ∃ c ∈ name, c.isUpper

/-- Only one of the reserved words has a capital letter. -/
theorem mem_reservedWords_iff {name : String} (h : ∃ c ∈ name.toList, c.isUpper) :
    name ∈ reservedWords ↔ name = "Self" := by
  have hall : ∀ word ∈ reservedWords, word.toList.any Char.isUpper → word = "Self" := by
    decide
  constructor
  · exact fun hmem => hall name hmem (List.any_eq_true.2 h)
  · rintro rfl
    decide

theorem isAlpha_of_isUpper {c : Char} (h : c.isUpper) : c.isAlpha := by
  simp [Char.isAlpha, h]

theorem isAlphanum_of_isAlpha {c : Char} (h : c.isAlpha) : c.isAlphanum := by
  simp [Char.isAlphanum, h]

theorem isVariant_of_isUpper {c : Char} {rest : List Char} (hc : c.isUpper)
    (hrest : ∀ d ∈ rest, d.isAlphanum) : IsVariant (c :: rest) :=
  ⟨⟨c, rest, rfl, isAlpha_of_isUpper hc, hrest⟩, c, List.mem_cons_self, hc⟩

/-! ### Words -/

section Words

variable {word : List Char} (hword : ∀ c ∈ word, c.isAlpha)

include hword

theorem isAscii_of_mem_letters : ∀ c ∈ word, isAscii c = true := fun c hc =>
  isAscii_of_isAlphanum (isAlphanum_of_isAlpha (hword c hc))

theorem any_isUppercase_iff : word.any isUppercase = true ↔ ∃ c ∈ word, c.isUpper := by
  rw [List.any_eq_true]
  exact exists_congr fun c => and_congr_right fun hc => by
    rw [isUppercase_of_ascii (isAscii_of_mem_letters hword c hc)]

theorem any_isLowercase_iff : word.any isLowercase = true ↔ ∃ c ∈ word, c.isLower := by
  rw [List.any_eq_true]
  exact exists_congr fun c => and_congr_right fun hc => by
    rw [isLowercase_of_ascii (isAscii_of_mem_letters hword c hc)]

/-- Letters without a capital one among them are small. -/
theorem isLower_of_not_exists_isUpper (h : ¬ ∃ c ∈ word, c.isUpper) : ∀ c ∈ word, c.isLower :=
  fun c hc => (Bool.or_eq_true_iff.1 (hword c hc)).resolve_left fun hupper => h ⟨c, hc, hupper⟩

/-- Letters without a small one among them are capital. -/
theorem isUpper_of_not_exists_isLower (h : ¬ ∃ c ∈ word, c.isLower) : ∀ c ∈ word, c.isUpper :=
  fun c hc => (Bool.or_eq_true_iff.1 (hword c hc)).resolve_right fun hlower => h ⟨c, hc, hlower⟩

/-- A word in one case is capitalized, and any other word has a capital letter. -/
theorem wordName_cases (hne : word ≠ []) :
    ((∀ c ∈ word, c.isLower) ∨ ∀ c ∈ word, c.isUpper) ∧ wordName word = capitalize word ∨
      (∃ c ∈ word, c.isUpper) ∧ wordName word = word := by
  obtain ⟨c, hc⟩ := List.exists_mem_of_ne_nil word hne
  by_cases hupper : ∃ c ∈ word, c.isUpper
  · have hanyUpper := (any_isUppercase_iff hword).2 hupper
    by_cases hlower : ∃ c ∈ word, c.isLower
    · have hanyLower := (any_isLowercase_iff hword).2 hlower
      exact .inr ⟨hupper, by simp [wordName, allLower, allUpper, hanyUpper, hanyLower]⟩
    · have hanyLower := Bool.not_eq_true _ ▸ mt (any_isLowercase_iff hword).1 hlower
      refine .inl ⟨.inr (isUpper_of_not_exists_isLower hword hlower), ?_⟩
      simp [wordName, allUpper, hanyUpper, hanyLower]
  · have hsmall := isLower_of_not_exists_isUpper hword hupper
    have hanyUpper := Bool.not_eq_true _ ▸ mt (any_isUppercase_iff hword).1 hupper
    have hanyLower := (any_isLowercase_iff hword).2 ⟨c, hc, hsmall c hc⟩
    refine .inl ⟨.inl hsmall, ?_⟩
    simp [wordName, allLower, hanyUpper, hanyLower]

theorem isVariant_capitalize (hne : word ≠ []) : IsVariant (capitalize word) := by
  obtain ⟨c, rest, rfl⟩ := List.exists_cons_of_ne_nil hne
  have hascii := isAscii_of_mem_letters hword
  rw [List.forall_mem_cons] at hword hascii
  rw [capitalize_of_ascii hascii.1 hascii.2]
  refine isVariant_of_isUpper (by rw [Char.isUpper_toUpper_eq_isAlpha, hword.1]) ?_
  exact List.forall_mem_map.2 fun d hd =>
    isAlphanum_of_tail (.inl (isLower_of_isAlpha (hword.2 d hd)))

theorem isVariant_wordName (hne : word ≠ []) : IsVariant (wordName word) := by
  rcases wordName_cases hword hne with ⟨-, hname⟩ | ⟨hupper, hname⟩
  · rw [hname]
    exact isVariant_capitalize hword hne
  · rw [hname]
    obtain ⟨c, rest, rfl⟩ := List.exists_cons_of_ne_nil hne
    rw [List.forall_mem_cons] at hword
    exact ⟨⟨c, rest, rfl, hword.1, fun d hd => isAlphanum_of_isAlpha (hword.2 d hd)⟩, hupper⟩

theorem map_toLower_capitalize (hne : word ≠ []) :
    (capitalize word).map Char.toLower = word.map Char.toLower := by
  obtain ⟨c, rest, rfl⟩ := List.exists_cons_of_ne_nil hne
  have hascii := isAscii_of_mem_letters hword
  rw [List.forall_mem_cons] at hascii
  rw [capitalize_of_ascii hascii.1 hascii.2, List.map_cons, List.map_cons, List.map_map,
    Char.toLower_toUpper_eq_toLower]
  exact congrArg (c.toLower :: ·) (List.map_congr_left fun d _ => Char.toLower_toLower_eq_toLower d)

theorem eq_of_wordName_eq_self (hne : word ≠ []) (h : wordName word = "Self".toList) :
    word ∈ ["self".toList, "Self".toList, "SELF".toList] := by
  rcases wordName_cases hword hne with ⟨hcase, hname⟩ | ⟨-, hname⟩
  · have hlower : word.map Char.toLower = "self".toList := by
      rw [← map_toLower_capitalize hword hne, ← hname, h]
      decide
    rcases hcase with hsmall | hcapital
    · have hword : word.map Char.toLower = word :=
        (List.map_congr_left fun c hc => Char.toLower_eq_of_not_isUpper
          (Char.not_isUpper_of_isLower (hsmall c hc))).trans (List.map_id word)
      rw [← hword, hlower]
      decide
    · have hword : (word.map Char.toLower).map Char.toUpper = word := by
        rw [List.map_map]
        exact (List.map_congr_left fun c hc => toUpper_toLower (.inl (hcapital c hc))).trans
          (List.map_id word)
      rw [← hword, hlower]
      decide
  · rw [← hname, h]
    decide

end Words

/-! ### Texts that are spelled out -/

/-- Words of capital letters make up a variant name. -/
theorem isVariant_flatMap_camelWord {words : List (List Char)} (hne : words ≠ [])
    (h : ∀ word ∈ words, isCapitalWord word) : IsVariant (words.flatMap camelWord) := by
  have hletters : ∀ word ∈ words, ∀ d ∈ camelWord word, d.isAlphanum := by
    intro word hword d hd
    obtain ⟨c, rest, rfl, hc, hrest⟩ := isCapitalWord_iff.1 (h word hword)
    rw [camelWord_cons hc hrest] at hd
    rcases List.mem_cons.1 hd with rfl | hd
    · exact isAlphanum_of_isAlpha (isAlpha_of_isUpper hc)
    · exact isAlphanum_of_tail (tail_map_toLower hrest d hd)
  obtain ⟨word, words, rfl⟩ := List.exists_cons_of_ne_nil hne
  rw [List.forall_mem_cons] at h hletters
  obtain ⟨c, rest, rfl, hc, hrest⟩ := isCapitalWord_iff.1 h.1
  rw [camelWord_cons hc hrest, List.forall_mem_cons] at hletters
  rw [List.flatMap_cons, camelWord_cons hc hrest]
  refine isVariant_of_isUpper hc (List.forall_mem_append.2 ⟨hletters.1.2, fun d hd => ?_⟩)
  obtain ⟨word, hword, hd⟩ := List.mem_flatMap.1 hd
  exact hletters.2 word hword d hd

/-- No text is spelled out as the reserved word. -/
theorem camelChars_spelledOut_ne_self (text : List Char) :
    camelChars (spelledOut text) ≠ "Self".toList := by
  intro h
  have hself : "Self".toList = ["SELF".toList].flatMap camelWord := rfl
  rw [camelChars_spelledOut, hself] at h
  have hwords := flatMap_camelWord_inj (fun _ => isCapitalWord_of_mem_flatMap) (by decide) h
  exact flatMap_nameWords_ne (by decide) text [] hwords

/-! ### Symbols -/

theorem isAlpha_of_isWord {text : List Char} (hascii : ∀ c ∈ text, isAscii c = true)
    (h : isWord text = true) : ∀ c ∈ text, c.isAlpha := by
  intro c hc
  rw [isWord, Bool.and_eq_true, List.all_eq_true] at h
  rw [← isAlphabetic_of_ascii (hascii c hc)]
  exact h.2 c hc

theorem isVariant_symbolName {text : List Char} (hne : text ≠ [])
    (hascii : ∀ c ∈ text, isAscii c = true) : IsVariant (symbolName text) := by
  rw [symbolName]
  split_ifs with _ hword
  · have harrow : "Arrow".toList = ["ARROW".toList].flatMap camelWord := rfl
    rw [harrow]
    exact isVariant_flatMap_camelWord (by decide) (by decide)
  · exact isVariant_wordName (isAlpha_of_isWord hascii hword) hne
  · rw [camelChars_spelledOut]
    refine isVariant_flatMap_camelWord ?_ fun _ => isCapitalWord_of_mem_flatMap
    obtain ⟨c, rest, rfl⟩ := List.exists_cons_of_ne_nil hne
    rw [List.flatMap_cons]
    exact List.append_ne_nil_of_left_ne_nil (nameWords_ne_nil c) _

theorem symbolName_eq_self_iff {text : List Char} (hascii : ∀ c ∈ text, isAscii c = true) :
    symbolName text = "Self".toList ↔ text ∈ ["self", "Self", "SELF"].map String.toList := by
  constructor
  · intro h
    rw [symbolName] at h
    split_ifs at h with harrow hword
    · exact absurd h (by decide)
    · have hne : text ≠ [] := by
        rintro rfl
        cases hword
      exact eq_of_wordName_eq_self (isAlpha_of_isWord hascii hword) hne h
    · exact absurd h (camelChars_spelledOut_ne_self text)
  · intro h
    have hall : ∀ word ∈ ["self", "Self", "SELF"], symbolName word.toList = "Self".toList := by
      decide
    obtain ⟨word, hword, rfl⟩ := List.mem_map.1 h
    exact hall word hword

theorem toList_terminalName_symbol (text : String) :
    (terminalName (.symbol text)).toList = symbolName text.toList := by
  rw [terminalName, String.toList_ofList]

/-- The variant name of a symbol that is made of ASCII characters is a letter with letters and
digits behind it, unless the symbol is empty, and it is a reserved word for three symbols only. -/
theorem terminalName_usable_iff {text : String} (hascii : ∀ c ∈ text.toList, isAscii c = true) :
    (Shaped (·.isAlpha) (·.isAlphanum) (terminalName (.symbol text)).toList ↔ text ≠ "") ∧
      (terminalName (.symbol text) ∈ reservedWords ↔ text ∈ ["self", "Self", "SELF"]) := by
  by_cases hempty : text = ""
  · rw [hempty]
    refine ⟨iff_of_false ?_ (not_not_intro rfl), by decide⟩
    rintro ⟨c, rest, hname, -⟩
    cases hname
  have hne : text.toList ≠ [] := fun h => hempty (String.toList_injective h)
  have hvariant : IsVariant (terminalName (.symbol text)).toList := by
    rw [toList_terminalName_symbol]
    exact isVariant_symbolName hne hascii
  refine ⟨iff_of_true hvariant.1 hempty, ?_⟩
  rw [mem_reservedWords_iff hvariant.2, ← String.toList_inj, toList_terminalName_symbol,
    symbolName_eq_self_iff hascii,
    List.mem_map_of_injective fun _ _ => String.toList_injective]

/-- The word that takes the reserved name, and the same word behind a control character and before
a digit. -/
theorem terminalName_usable_iff_self :
    ((∀ c ∈ "self".toList, isAscii c = true) ∧ terminalName (.symbol "self") ∈ reservedWords) ∧
    (∀ c ∈ "\tself0".toList, isAscii c = true) ∧
      Shaped (·.isAlpha) (·.isAlphanum) (terminalName (.symbol "\tself0")).toList ∧
      terminalName (.symbol "\tself0") ∉ reservedWords := by
  have hself : ∀ c ∈ "self".toList, isAscii c = true := List.all_eq_true.1 (by decide)
  have htab : ∀ c ∈ "\tself0".toList, isAscii c = true := List.all_eq_true.1 (by decide)
  obtain ⟨-, hreserved⟩ := terminalName_usable_iff hself
  obtain ⟨hshaped, hfree⟩ := terminalName_usable_iff htab
  exact ⟨⟨hself, hreserved.2 (by decide)⟩, htab, hshaped.2 (by decide), mt hfree.1 (by decide)⟩

end ParserTables.Naming
