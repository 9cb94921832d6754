import Mathlib
import ParserTables.Proofs.Naming.Collision
import ParserTables.Proofs.Naming.CharacterNames

/-!
# Names that are spelled out

A terminal that is not a word is named by the names of its characters, and these are made of words.
The variant name determines the terminal (`terminalName_spelledOut`), because it is read in one way
twice over: the words end where the capital letters stand, and the words of a character's name are
never the beginning of the words of another name.
-/

namespace ParserTables.Text

/-! ### Replacing inside of a joined text -/

theorem replaceChar_joinWith (c : Char) (text sep : List Char) (ps : List (List Char)) :
    replaceChar c text (joinWith sep ps) =
      joinWith (replaceChar c text sep) (ps.map (replaceChar c text)) := by
  induction ps with
  | nil => rfl
  | cons p ps ih =>
      cases ps with
      | nil => rfl
      | cons q ps =>
          rw [joinWith, replaceChar_append, replaceChar_append, ih]
          rfl

theorem joinWith_append (sep : List Char) {ps qs : List (List Char)} (hps : ps ≠ [])
    (hqs : qs ≠ []) : joinWith sep (ps ++ qs) = joinWith sep ps ++ sep ++ joinWith sep qs := by
  induction ps with
  | nil => exact absurd rfl hps
  | cons p ps ih =>
      cases ps with
      | nil =>
          obtain ⟨q, qs, rfl⟩ := List.exists_cons_of_ne_nil hqs
          rfl
      | cons p' ps =>
          rw [List.cons_append, List.cons_append, joinWith, ← List.cons_append,
            ih (List.cons_ne_nil p' ps), joinWith]
          simp only [List.append_assoc]

/-- Texts that are joined from pieces are joined from all the pieces. -/
theorem joinWith_map_joinWith (sep : List Char) {pss : List (List (List Char))}
    (h : ∀ ps ∈ pss, ps ≠ []) :
    joinWith sep (pss.map (joinWith sep)) = joinWith sep pss.flatten := by
  induction pss with
  | nil => rfl
  | cons ps pss ih =>
      rw [List.forall_mem_cons] at h
      cases pss with
      | nil => simp [joinWith]
      | cons qs pss =>
          have hne : (qs :: pss).flatten ≠ [] := by simp [h.2 qs List.mem_cons_self]
          rw [List.flatten_cons, joinWith_append sep h.1 hne, ← ih h.2]
          rfl

end ParserTables.Text

namespace ParserTables.Naming

open InformationTheory ParserTables.Grammar ParserTables.Text

/-! ### Words in a variant name -/

/-- A word as it stands in a variant name. -/
def camelWord (word : List Char) : List Char := capitalize (word.map Char.toLower)

theorem not_isLower_of_isUpper_or_isDigit {d : Char} (h : d.isUpper ∨ d.isDigit) :
    ¬ d.isLower := by
  simp only [Char.isUpper, Char.isLower, Char.isDigit, Bool.and_eq_true, decide_eq_true_eq,
    ge_iff_le, UInt32.le_iff_toNat_le, UInt32.reduceToNat, Char.reduceVal] at h ⊢
  omega

theorem tail_map_toLower {rest : List Char} (h : ∀ d ∈ rest, d.isUpper ∨ d.isDigit) :
    ∀ d ∈ rest.map Char.toLower, d.isLower ∨ d.isDigit := by
  refine List.forall_mem_map.2 fun d hd => ?_
  rcases h d hd with hd | hd
  · exact .inl (isLower_toLower hd)
  · right
    rwa [Char.toLower_eq_of_not_isUpper fun hupper => not_isDigit_of_isUpper hupper hd]

theorem toUpper_toLower {d : Char} (h : d.isUpper ∨ d.isDigit) : d.toLower.toUpper = d := by
  rw [Char.toUpper_toLower_eq_toUpper,
    Char.toUpper_eq_of_not_isLower (not_isLower_of_isUpper_or_isDigit h)]

/-- In a variant name a word keeps its first letter, and the others are small. -/
theorem camelWord_cons {c : Char} {rest : List Char} (hc : c.isUpper)
    (hrest : ∀ d ∈ rest, d.isUpper ∨ d.isDigit) :
    camelWord (c :: rest) = c :: rest.map Char.toLower := by
  rw [camelWord, List.map_cons, capitalize_of_isLower (isLower_toLower hc) (tail_map_toLower hrest),
    toUpper_toLower (.inl hc)]

theorem camelWord_mem_openedWords {word : List Char} (h : isCapitalWord word) :
    camelWord word ∈ openedWords fun c : Char => c.isUpper := by
  obtain ⟨c, rest, rfl, hc, hrest⟩ := isCapitalWord_iff.1 h
  exact ⟨c, _, camelWord_cons hc hrest, hc, fun d hd =>
    not_isUpper_of_tail (tail_map_toLower hrest d hd)⟩

/-- Upper case gives the word back. -/
theorem map_toUpper_camelWord {word : List Char} (h : isCapitalWord word) :
    (camelWord word).map Char.toUpper = word := by
  obtain ⟨c, rest, rfl, hc, hrest⟩ := isCapitalWord_iff.1 h
  rw [camelWord_cons hc hrest, List.map_cons, List.map_map,
    Char.toUpper_eq_of_not_isLower (Char.not_isLower_of_isUpper hc)]
  exact congrArg (c :: ·) ((List.map_congr_left fun d hd => toUpper_toLower (hrest d hd)).trans
    (List.map_id rest))

/-- Words in a variant name are known, since each begins with the only capital letter in it. -/
theorem flatMap_camelWord_inj {ws vs : List (List Char)} (hws : ∀ w ∈ ws, isCapitalWord w)
    (hvs : ∀ w ∈ vs, isCapitalWord w) (h : ws.flatMap camelWord = vs.flatMap camelWord) :
    ws = vs := by
  have hback : ∀ ws : List (List Char), (∀ w ∈ ws, isCapitalWord w) →
      (ws.map camelWord).map (List.map Char.toUpper) = ws := by
    intro ws hws
    rw [List.map_map]
    exact (List.map_congr_left fun w hw => map_toUpper_camelWord (hws w hw)).trans (List.map_id ws)
  have hmap : ws.map camelWord = vs.map camelWord :=
    uniquelyDecodable_openedWords _ _ _
      (List.forall_mem_map.2 fun w hw => camelWord_mem_openedWords (hws w hw))
      (List.forall_mem_map.2 fun w hw => camelWord_mem_openedWords (hvs w hw))
      (by rwa [← List.flatMap_def, ← List.flatMap_def])
  rw [← hback ws hws, hmap, hback vs hvs]

/-! ### Texts that are spelled out -/

theorem replaceChar_hyphen_charNames (text : List Char) :
    replaceChar '-' [' '] (joinWith [' '] (text.map charName)) =
      joinWith [' '] (text.flatMap nameWords) := by
  have hname : ∀ c, replaceChar '-' [' '] (charName c) = joinWith [' '] (nameWords c) :=
    fun c => (joinWith_pieces _ _).symm
  rw [replaceChar_joinWith, List.map_map, List.flatMap_def, ← joinWith_map_joinWith, List.map_map]
  · exact congrArg (joinWith [' ']) (List.map_congr_left fun c _ => hname c)
  · exact List.forall_mem_map.2 fun c _ => nameWords_ne_nil c

theorem replaceChar_blank_joinWith {words : List (List Char)}
    (h : ∀ word ∈ words, isCapitalWord word) :
    replaceChar ' ' ['_'] (joinWith [' '] words) = joinWith ['_'] words := by
  have hword : ∀ word ∈ words, replaceChar ' ' ['_'] word = id word := fun word hword =>
    replaceChar_of_not_mem _ (not_mem_of_isCapitalWord (h word hword) (by decide))
  rw [replaceChar_joinWith, List.map_congr_left hword, List.map_id]
  rfl

/-- A text that is spelled out is all the words of its characters in lower case, joined by
underscores. -/
theorem spelledOut_eq (text : List Char) :
    spelledOut text = joinWith ['_'] ((text.flatMap nameWords).map (List.map Char.toLower)) := by
  have hcapital : ∀ word ∈ text.flatMap nameWords, isCapitalWord word := fun _ =>
    isCapitalWord_of_mem_flatMap
  have hunderscore : ∀ c ∈ ['_'], isAscii c = true := List.forall_mem_singleton.2 rfl
  have hascii : ∀ c ∈ joinWith ['_'] (text.flatMap nameWords), isAscii c = true :=
    forall_mem_joinWith hunderscore fun word hword c hc =>
      (isUpper_or_isDigit_of_mem (hcapital word hword) hc).elim isAscii_of_isUpper
        isAscii_of_isDigit
  rw [spelledOut, replaceChar_hyphen_charNames, replaceChar_blank_joinWith hcapital,
    lower_of_ascii hascii, map_joinWith]
  rfl

/-- The variant name of a text that is spelled out: the words of its characters. -/
theorem camelChars_spelledOut (text : List Char) :
    camelChars (spelledOut text) = (text.flatMap nameWords).flatMap camelWord := by
  rw [spelledOut_eq]
  by_cases hne : text.flatMap nameWords = []
  · rw [hne]
    rfl
  have hlower : ∀ word ∈ (text.flatMap nameWords).map (List.map Char.toLower),
      '_' ∉ word ∧ allLower word = true := by
    refine List.forall_mem_map.2 fun word hword => ?_
    obtain ⟨c, rest, rfl, hc, hrest⟩ := isCapitalWord_iff.1 (isCapitalWord_of_mem_flatMap hword)
    exact ⟨underscore_not_mem_of_tail (isLower_toLower hc) (tail_map_toLower hrest),
      allLower_of_tail (isLower_toLower hc) (tail_map_toLower hrest)⟩
  rw [camelChars_joinWith_of_allLower (by simpa using hne) (fun word hword => (hlower word hword).1)
    fun word hword => (hlower word hword).2, List.flatMap_map]
  rfl

/-! ### Terminals -/

/-- The terminals that are not named by a word: the end of the input, the error token, and each
symbol that is empty or has a character in it that is no letter. -/
def IsSpelledOut : Terminal → Prop
  | .symbol text => text = "" ∨ ∃ c ∈ text.toList, isAlphabetic c = false
  | .endOfInput => True
  | .errorToken => True

instance : DecidablePred IsSpelledOut
  | .symbol text => decidable_of_iff (text = "" ∨ text.toList.any (!isAlphabetic ·))
      (by simp [IsSpelledOut])
  | .endOfInput => isTrue trivial
  | .errorToken => isTrue trivial

/-- The words of the variant name of a terminal that is spelled out. -/
def terminalWords : Terminal → List (List Char)
  | .symbol text =>
    if text.toList = ['=', '>'] then ["ARROW".toList] else text.toList.flatMap nameWords
  | .endOfInput => ["END".toList]
  | .errorToken => ["ERROR".toList, "TOKEN".toList]

theorem isWord_eq_false {text : String} (h : IsSpelledOut (.symbol text)) :
    isWord text.toList = false := by
  rcases h with rfl | ⟨c, hc, hletter⟩
  · rfl
  · rw [isWord, List.all_eq_false.2 ⟨c, hc, by simp [hletter]⟩, Bool.and_false]

theorem toList_terminalName {t : Terminal} (h : IsSpelledOut t) :
    (terminalName t).toList = (terminalWords t).flatMap camelWord := by
  cases t with
  | symbol text =>
      rw [terminalName, String.toList_ofList, symbolName, terminalWords]
      split
      · rfl
      · rw [isWord_eq_false h, camelChars_spelledOut]
        rfl
  | endOfInput => rfl
  | errorToken => rfl

theorem all_isCapitalWord_terminalWords (t : Terminal) :
    ∀ word ∈ terminalWords t, isCapitalWord word := by
  cases t with
  | symbol text =>
      rw [terminalWords]
      split
      · decide
      · exact fun _ => isCapitalWord_of_mem_flatMap
  | endOfInput => decide
  | errorToken => decide

theorem Named.head?_not_mem {c : Char} {ws : List (List Char)} (h : Named c ws) :
    ∀ word ∈ ws.head?, word ∉ takenWords := by
  cases h with
  | sign hname => exact fun word hword => (head?_signNames _ hname word hword).2.2
  | capital _ => simp [takenWords]
  | small _ => simp [takenWords]
  | codePoint => simp [takenWords]

/-- No text has the words of a terminal with a name of its own, or of a reserved name. -/
theorem flatMap_nameWords_ne {word : List Char} (h : word ∈ takenWords) (text : List Char)
    (rest : List (List Char)) : text.flatMap nameWords ≠ word :: rest := by
  intro heq
  cases text with
  | nil => cases heq
  | cons c text =>
      have hhead : (nameWords c).head? = some word := by
        rw [← List.head?_append_of_ne_nil _ (nameWords_ne_nil c), ← List.flatMap_cons, heq]
        rfl
      exact (named_nameWords c).head?_not_mem word hhead h

theorem terminalWords_symbol_ne {word : List Char} (h : word ∈ ["END".toList, "ERROR".toList])
    (text : String) (rest : List (List Char)) : terminalWords (.symbol text) ≠ word :: rest := by
  rw [terminalWords]
  split
  · rintro heq
    rw [← (List.cons_eq_cons.1 heq).1] at h
    exact absurd h (by decide)
  · have hsub : ["END".toList, "ERROR".toList] ⊆ takenWords := by decide
    exact flatMap_nameWords_ne (hsub h) _ rest

theorem terminalWords_injective : Function.Injective terminalWords := by
  intro s t h
  -- Terminals of two kinds differ in the first word, and so do the arrow and any other symbol.
  cases s with
  | symbol text =>
      cases t with
      | symbol text' =>
          have harrow : "ARROW".toList ∈ takenWords := List.mem_cons_self
          rw [terminalWords, terminalWords] at h
          split_ifs at h with htext htext' htext'
          · rw [String.toList_injective (htext.trans htext'.symm)]
          · exact absurd h.symm (flatMap_nameWords_ne harrow _ [])
          · exact absurd h (flatMap_nameWords_ne harrow _ [])
          · rw [String.toList_injective (flatMap_nameWords_injective h)]
      | endOfInput => exact absurd h (terminalWords_symbol_ne (by decide) text [])
      | errorToken => exact absurd h (terminalWords_symbol_ne (by decide) text ["TOKEN".toList])
  | endOfInput =>
      cases t with
      | symbol text => exact absurd h.symm (terminalWords_symbol_ne (by decide) text [])
      | endOfInput => rfl
      | errorToken => exact absurd h (by decide)
  | errorToken =>
      cases t with
      | symbol text =>
          exact absurd h.symm (terminalWords_symbol_ne (by decide) text ["TOKEN".toList])
      | endOfInput => exact absurd h (by decide)
      | errorToken => rfl

/-- The variant name of a terminal that is spelled out determines the terminal, so that different
terminals of this kind never collide. -/
theorem terminalName_spelledOut :
    (∀ s t, IsSpelledOut s → IsSpelledOut t → terminalName s = terminalName t → s = t) ∧
    ∀ ts : List Terminal, ts.Nodup → (∀ t ∈ ts, IsSpelledOut t) → checkTerminals ts = .ok () := by
  have hinj : ∀ s t, IsSpelledOut s → IsSpelledOut t → terminalName s = terminalName t → s = t := by
    intro s t hs ht h
    refine terminalWords_injective (flatMap_camelWord_inj (all_isCapitalWord_terminalWords s)
      (all_isCapitalWord_terminalWords t) ?_)
    rw [← toList_terminalName hs, ← toList_terminalName ht, h]
  refine ⟨hinj, fun ts hnodup hts => (distinct_eq_ok_iff hnodup _ _).2 ?_⟩
  exact fun s hs t ht => hinj s t (hts s hs) (hts t ht)

/-- A code point beside the word that spells it, the two cases of a letter, and symbols that begin
with each other. -/
theorem terminalName_spelledOut_lookalikes :
    (IsSpelledOut (.symbol "€") ∧ IsSpelledOut (.symbol "u20ac") ∧
      terminalName (.symbol "€") ≠ terminalName (.symbol "u20ac")) ∧
    checkTerminals [.endOfInput, .errorToken, .symbol "", .symbol "=>", .symbol "=", .symbol "==",
      .symbol "a1", .symbol "A1", .symbol "ß-", .symbol "€", .symbol "u20ac"] = .ok () := by
  have heuro : IsSpelledOut (.symbol "€") := by decide +kernel
  have hword : IsSpelledOut (.symbol "u20ac") := by decide +kernel
  refine ⟨⟨heuro, hword, fun h => ?_⟩, terminalName_spelledOut.2 _ (by decide) (by decide +kernel)⟩
  exact absurd (terminalName_spelledOut.1 _ _ heuro hword h) (by decide)

end ParserTables.Naming
