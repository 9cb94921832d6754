import Mathlib
import ParserTables.Naming.Terminal
import ParserTables.Proofs.Naming.Words
import ParserTables.Proofs.Text.Code
import ParserTables.Proofs.Text.Numeral

/-!
# The names of characters

A character is named by words in capital letters (`Named` says by which). The words of one name are
never the beginning of the words of another one, so the names form a code: written one after the
other they determine the characters (`flatMap_nameWords_injective`).
-/

namespace ParserTables.Text

theorem replaceChar_of_not_mem {c : Char} (text : List Char) {cs : List Char} (h : c ∉ cs) :
    replaceChar c text cs = cs := by
  have hsame : ∀ d ∈ cs, (if d = c then text else [d]) = [d] := fun d hd =>
    if_neg (by rintro rfl; exact h hd)
  rw [replaceChar, List.flatMap_def, List.map_congr_left hsame, ← List.flatMap_def,
    List.flatMap_singleton']

end ParserTables.Text

namespace ParserTables.Naming

open InformationTheory ParserTables.Text

/-! ### The words of a name -/

/-- The words of a name, with blanks or hyphens between them. -/
def wordsOf (name : List Char) : List (List Char) := pieces ' ' (replaceChar '-' [' '] name)

/-- The words of the name of a character. -/
def nameWords (c : Char) : List (List Char) := wordsOf (charName c)

/-- A capital letter, and behind it capital letters and digits. -/
def isCapitalWord : List Char → Bool
  | [] => false
  | c :: rest => c.isUpper && rest.all fun d => d.isUpper || d.isDigit

theorem isCapitalWord_iff {word : List Char} :
    isCapitalWord word ↔
      ∃ c rest, word = c :: rest ∧ c.isUpper ∧ ∀ d ∈ rest, d.isUpper ∨ d.isDigit := by
  cases word <;> simp [isCapitalWord]

/-! ### The names of characters -/

theorem isUpper_or_isDigit_of_mem {word : List Char} (h : isCapitalWord word) {c : Char}
    (hc : c ∈ word) : c.isUpper ∨ c.isDigit := by
  obtain ⟨d, rest, rfl, hd, hrest⟩ := isCapitalWord_iff.1 h
  rcases List.mem_cons.1 hc with rfl | hc
  · exact .inl hd
  · exact hrest c hc

theorem not_mem_of_isCapitalWord {word : List Char} (h : isCapitalWord word) {c : Char}
    (hc : ¬ (c.isUpper ∨ c.isDigit)) : c ∉ word := fun hmem =>
  hc (isUpper_or_isDigit_of_mem h hmem)

/-- A name without blanks and hyphens is one word. -/
theorem wordsOf_of_isCapitalWord {name : List Char} (h : isCapitalWord name) :
    wordsOf name = [name] := by
  have hblank : ' ' ∉ name := not_mem_of_isCapitalWord h (by decide)
  have hhyphen : '-' ∉ name := not_mem_of_isCapitalWord h (by decide)
  rw [wordsOf, replaceChar_of_not_mem _ hhyphen, pieces_of_not_mem hblank]

theorem wordsOf_letter {c : Char} (hc : c.isUpper) :
    wordsOf ("LATIN CAPITAL LETTER ".toList ++ [c]) =
        ["LATIN".toList, "CAPITAL".toList, "LETTER".toList, [c]] ∧
      wordsOf ("LATIN SMALL LETTER ".toList ++ [c]) =
        ["LATIN".toList, "SMALL".toList, "LETTER".toList, [c]] := by
  have hblank : c ≠ ' ' := by rintro rfl; exact absurd hc (by decide)
  have hhyphen : c ≠ '-' := by rintro rfl; exact absurd hc (by decide)
  constructor <;> simp [wordsOf, replaceChar, pieces_cons, pushFront, hblank, hhyphen]

theorem isCapitalWord_codePoint (n : Nat) : isCapitalWord ('U' :: upperHex 4 n) :=
  isCapitalWord_iff.2 ⟨'U', _, rfl, rfl, fun _ => isUpper_or_isDigit_of_mem_upperHex⟩

/-- The words that name a character: those of the table, those of a letter, or one word made of
the code point. -/
inductive Named (c : Char) : List (List Char) → Prop
  | sign {name : String} : (c.toNat, name) ∈ signNames → Named c (wordsOf name.toList)
  | capital : c.isUpper → Named c ["LATIN".toList, "CAPITAL".toList, "LETTER".toList, [c]]
  | small : c.isLower → Named c ["LATIN".toList, "SMALL".toList, "LETTER".toList, [c.toUpper]]
  | codePoint : Named c ['U' :: upperHex 4 c.toNat]

theorem named_nameWords (c : Char) : Named c (nameWords c) := by
  unfold nameWords charName
  split
  · next name hname =>
      obtain ⟨before, after, htable, -⟩ := List.lookup_eq_some_iff.1 hname
      exact .sign (by simp [htable])
  · split_ifs with hupper hlower
    · rw [(wordsOf_letter hupper).1]
      exact .capital hupper
    · rw [(wordsOf_letter (isUpper_toUpper hlower)).2]
      exact .small hlower
    · rw [wordsOf_of_isCapitalWord (isCapitalWord_codePoint c.toNat)]
      exact .codePoint

/-! ### The table of names -/

theorem all_isCapitalWord_signNames :
    ∀ s ∈ signNames, (wordsOf s.2.toList).all isCapitalWord := by
  decide +kernel

/-- The names of the table are no beginnings of each other. -/
theorem signNames_prefixFree :
    ∀ s ∈ signNames, ∀ t ∈ signNames, wordsOf s.2.toList <+: wordsOf t.2.toList → s.1 = t.1 := by
  decide +kernel

/-- Words that are taken by another terminal or by a reserved name. -/
def takenWords : List (List Char) :=
  ["ARROW".toList, "END".toList, "ERROR".toList, "SELF".toList]

/-- No name of the table begins like the name of a letter or of a code point, or with a word that
is taken. -/
theorem head?_signNames :
    ∀ s ∈ signNames, ∀ word ∈ (wordsOf s.2.toList).head?,
      word ≠ "LATIN".toList ∧ word.head? ≠ some 'U' ∧ word ∉ takenWords := by
  decide +kernel

/-! ### Names form a code -/

theorem wordsOf_ne_nil (name : List Char) : wordsOf name ≠ [] := pieces_ne_nil _ _

/-- The words of a name are not the beginning of the words of another one. -/
theorem Named.eq_of_prefix_of_ne_nil {c d : Char} {ws vs : List (List Char)} (hc : Named c ws)
    (hd : Named d vs) (hne : ws ≠ []) (h : ws <+: vs) : c = d := by
  have hhead : ws.head? = vs.head? := by
    obtain ⟨rest, rfl⟩ := h
    rw [List.head?_append_of_ne_nil _ hne]
  -- Names of two kinds differ in the first word, but for those of capital and small letters, which
  -- differ in the second one.
  cases hc with
  | sign hname =>
      cases hd with
      | sign hname' => exact Char.toNat_inj.1 (signNames_prefixFree _ hname _ hname' h)
      | capital _ => exact absurd rfl (head?_signNames _ hname _ hhead).1
      | small _ => exact absurd rfl (head?_signNames _ hname _ hhead).1
      | codePoint => exact absurd rfl (head?_signNames _ hname _ hhead).2.1
  | capital _ =>
      cases hd with
      | sign hname => exact absurd rfl (head?_signNames _ hname _ hhead.symm).1
      | capital _ => simpa using h
      | small _ => simp at h
      | codePoint => simp at hhead
  | small hlower =>
      cases hd with
      | sign hname => exact absurd rfl (head?_signNames _ hname _ hhead.symm).1
      | capital _ => simp at h
      | small hlower' =>
          have hupper : c.toUpper = d.toUpper := by simpa using h
          rw [← toLower_toUpper hlower, hupper, toLower_toUpper hlower']
      | codePoint => simp at hhead
  | codePoint =>
      cases hd with
      | sign hname => exact absurd rfl (head?_signNames _ hname _ hhead.symm).2.1
      | capital _ => simp at hhead
      | small _ => simp at hhead
      | codePoint => exact Char.toNat_inj.1 (upperHex_injective 4 (by simpa using h))

theorem nameWords_ne_nil (c : Char) : nameWords c ≠ [] := wordsOf_ne_nil _

theorem nameWords_injective : Function.Injective nameWords := fun c d h =>
  (named_nameWords c).eq_of_prefix_of_ne_nil (named_nameWords d) (nameWords_ne_nil c)
    (h ▸ List.prefix_rfl)

theorem uniquelyDecodable_nameWords : UniquelyDecodable (Set.range nameWords) := by
  refine uniquelyDecodable_of_prefixFree ?_ ?_
  · rintro ⟨c, hc⟩
    exact nameWords_ne_nil c hc
  · rintro _ ⟨c, rfl⟩ _ ⟨d, rfl⟩ h
    rw [(named_nameWords c).eq_of_prefix_of_ne_nil (named_nameWords d) (nameWords_ne_nil c) h]

/-- A text is determined by the words of its characters. -/
theorem flatMap_nameWords_injective :
    Function.Injective (List.flatMap nameWords) := by
  intro text text' h
  refine List.map_injective_iff.2 nameWords_injective ?_
  exact uniquelyDecodable_nameWords _ _ (by simp) (by simp) (by simpa [List.flatMap_def] using h)

theorem Named.all_isCapitalWord {c : Char} {ws : List (List Char)} (h : Named c ws) :
    ∀ word ∈ ws, isCapitalWord word := by
  cases h with
  | sign hname =>
      have hall := all_isCapitalWord_signNames _ hname
      exact List.all_eq_true.1 hall
  | capital hc => simp [isCapitalWord, hc]
  | small hc => simp [isCapitalWord, isUpper_toUpper hc]
  | codePoint => exact List.forall_mem_singleton.2 (isCapitalWord_codePoint c.toNat)

theorem isCapitalWord_of_mem_flatMap {text word : List Char} (h : word ∈ text.flatMap nameWords) :
    isCapitalWord word := by
  obtain ⟨c, -, hword⟩ := List.mem_flatMap.1 h
  exact (named_nameWords c).all_isCapitalWord word hword

end ParserTables.Naming
