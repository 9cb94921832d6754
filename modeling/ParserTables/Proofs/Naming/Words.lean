import Mathlib
import ParserTables.Proofs.Naming.Boundaries
import ParserTables.Proofs.Naming.Casing

/-!
# Names that are made of words

A word is a letter with small letters and digits behind it. Names in camel form are words with
capital letters in front, one after the other; names in snake form are words with small letters in
front, joined by underscores. Between names of these two kinds the two spellings are inverse to
each other (`camel_snake_inverse`): in camel form the words end exactly where the next one begins,
and in snake form the words are exactly the pieces between the underscores.
-/

namespace ParserTables.Text

/-! ### Letters and digits -/

theorem isAscii_of_isAlphanum {c : Char} (h : c.isAlphanum) : isAscii c = true := by
  simp only [Char.isAlphanum, Char.isAlpha, Char.isUpper, Char.isLower, Char.isDigit, isAscii,
    Bool.or_eq_true, Bool.and_eq_true, decide_eq_true_eq, ge_iff_le, UInt32.le_iff_toNat_le,
    UInt32.reduceToNat, Char.reduceVal, Char.toNat_val] at h ⊢
  omega

theorem isAscii_of_isUpper {c : Char} (h : c.isUpper) : isAscii c = true :=
  isAscii_of_isAlphanum (by simp [Char.isAlphanum, Char.isAlpha, h])

theorem isAscii_of_isLower {c : Char} (h : c.isLower) : isAscii c = true :=
  isAscii_of_isAlphanum (by simp [Char.isAlphanum, Char.isAlpha, h])

theorem isAscii_of_isDigit {c : Char} (h : c.isDigit) : isAscii c = true :=
  isAscii_of_isAlphanum (by simp [Char.isAlphanum, h])

/-- An ASCII text is capitalized letter by letter. -/
theorem capitalize_of_ascii {c : Char} {rest : List Char} (hc : isAscii c = true)
    (hrest : ∀ d ∈ rest, isAscii d = true) :
    capitalize (c :: rest) = c.toUpper :: rest.map Char.toLower := by
  rw [capitalize_cons, upperChar_of_ascii hc, List.singleton_append, List.map_eq_flatMap,
    List.flatMap_def, List.flatMap_def]
  exact congrArg (c.toUpper :: List.flatten ·)
    (List.map_congr_left fun d hd => lowerChar_of_ascii (hrest d hd))

/-! ### Pieces of a joined text -/

theorem pieces_of_not_mem {sep : Char} {piece : List Char} (h : sep ∉ piece) :
    pieces sep piece = [piece] := by
  induction piece with
  | nil => rfl
  | cons c piece ih =>
      obtain ⟨hc, hpiece⟩ := not_or.1 (mt List.mem_cons.2 h)
      rw [pieces_cons, if_neg (Ne.symm hc), ih hpiece, pushFront]

theorem pieces_append {sep : Char} {piece : List Char} (h : sep ∉ piece) (rest : List Char) :
    pieces sep (piece ++ sep :: rest) = piece :: pieces sep rest := by
  induction piece with
  | nil => rw [List.nil_append, pieces_cons, if_pos rfl]
  | cons c piece ih =>
      obtain ⟨hc, hpiece⟩ := not_or.1 (mt List.mem_cons.2 h)
      rw [List.cons_append, pieces_cons, if_neg (Ne.symm hc), ih hpiece, pushFront]

/-- Cutting a text undoes the join of pieces without the separator. -/
theorem pieces_joinWith {sep : Char} {ps : List (List Char)} (hne : ps ≠ [])
    (h : ∀ p ∈ ps, sep ∉ p) : pieces sep (joinWith [sep] ps) = ps := by
  induction ps with
  | nil => exact absurd rfl hne
  | cons p ps ih =>
      rw [List.forall_mem_cons] at h
      cases ps with
      | nil => exact pieces_of_not_mem h.1
      | cons q ps =>
          rw [joinWith, List.append_assoc, List.singleton_append, pieces_append h.1,
            ih (List.cons_ne_nil q ps) h.2]

theorem map_joinWith (f : Char → Char) (sep : List Char) (ps : List (List Char)) :
    (joinWith sep ps).map f = joinWith (sep.map f) (ps.map (List.map f)) := by
  induction ps with
  | nil => rfl
  | cons p ps ih =>
      cases ps with
      | nil => rfl
      | cons q ps =>
          rw [joinWith, List.map_append, List.map_append, ih]
          rfl

theorem forall_mem_joinWith {P : Char → Prop} {sep : List Char} (hsep : ∀ c ∈ sep, P c)
    {ps : List (List Char)} (h : ∀ p ∈ ps, ∀ c ∈ p, P c) : ∀ c ∈ joinWith sep ps, P c := by
  induction ps with
  | nil => exact nofun
  | cons p ps ih =>
      rw [List.forall_mem_cons] at h
      cases ps with
      | nil => exact h.1
      | cons q ps =>
          rw [joinWith, List.forall_mem_append, List.forall_mem_append]
          exact ⟨⟨h.1, hsep⟩, ih h.2⟩

end ParserTables.Text

namespace ParserTables.Naming

open ParserTables.Text

/-! ### Words -/

/-- A letter of the given kind, and behind it at least one small letter or digit. -/
def IsWord (first : Char → Bool) (word : List Char) : Prop :=
  ∃ c rest, word = c :: rest ∧ first c ∧ rest ≠ [] ∧ ∀ d ∈ rest, d.isLower ∨ d.isDigit

/-- Words with capital letters in front, one after the other. -/
def IsCamel (name : String) : Prop :=
  ∃ words ≠ [], (∀ word ∈ words, IsWord Char.isUpper word) ∧ name.toList = words.flatten

/-- Words with small letters in front, joined by underscores. -/
def IsSnake (name : String) : Prop :=
  ∃ words ≠ [], (∀ word ∈ words, IsWord Char.isLower word) ∧ name.toList = joinWith ['_'] words

section Tail

variable {d : Char} {rest : List Char}

theorem not_isUpper_of_tail (h : d.isLower ∨ d.isDigit) : ¬ d.isUpper := fun hupper =>
  not_isLower_or_isDigit_of_isUpper hupper h

theorem isAscii_of_tail (h : d.isLower ∨ d.isDigit) : isAscii d = true :=
  h.elim isAscii_of_isLower isAscii_of_isDigit

theorem ne_underscore_of_tail (h : d.isLower ∨ d.isDigit) : '_' ≠ d := by
  rintro rfl
  exact absurd h (by decide)

theorem map_toLower_of_tail (h : ∀ d ∈ rest, d.isLower ∨ d.isDigit) :
    rest.map Char.toLower = rest :=
  (List.map_congr_left fun d hd =>
    Char.toLower_eq_of_not_isUpper (not_isUpper_of_tail (h d hd))).trans (List.map_id rest)

end Tail

theorem IsWord.ascii {first : Char → Bool} (hfirst : ∀ c, first c → isAscii c = true)
    {word : List Char} (h : IsWord first word) : ∀ c ∈ word, isAscii c = true := by
  obtain ⟨c, rest, rfl, hc, -, hrest⟩ := h
  rw [List.forall_mem_cons]
  exact ⟨hfirst c hc, fun d hd => isAscii_of_tail (hrest d hd)⟩

theorem isLower_toLower {c : Char} (h : c.isUpper) : c.toLower.isLower := by
  rw [Char.isLower_toLower_eq_isAlpha, Char.isAlpha, h, Bool.true_or]

theorem isUpper_toUpper {c : Char} (h : c.isLower) : c.toUpper.isUpper := by
  rw [Char.isUpper_toUpper_eq_isAlpha, Char.isAlpha, h, Bool.or_true]

theorem toLower_toUpper {c : Char} (h : c.isLower) : c.toUpper.toLower = c := by
  rw [Char.toLower_toUpper_eq_toLower,
    Char.toLower_eq_of_not_isUpper (Char.not_isUpper_of_isLower h)]

/-- A word with a capital letter, in lower case. -/
theorem IsWord.map_toLower {word : List Char} (h : IsWord Char.isUpper word) :
    IsWord Char.isLower (word.map Char.toLower) := by
  obtain ⟨c, rest, rfl, hc, hne, hrest⟩ := h
  refine ⟨c.toLower, rest, ?_, isLower_toLower hc, hne, hrest⟩
  rw [List.map_cons, map_toLower_of_tail hrest]

theorem capitalize_of_isLower {c : Char} {rest : List Char} (hc : c.isLower)
    (hrest : ∀ d ∈ rest, d.isLower ∨ d.isDigit) : capitalize (c :: rest) = c.toUpper :: rest := by
  rw [capitalize_of_ascii (isAscii_of_isLower hc) fun d hd => isAscii_of_tail (hrest d hd),
    map_toLower_of_tail hrest]

/-- A word with a small letter, capitalized. -/
theorem IsWord.capitalize {word : List Char} (h : IsWord Char.isLower word) :
    IsWord Char.isUpper (capitalize word) := by
  obtain ⟨c, rest, rfl, hc, hne, hrest⟩ := h
  exact ⟨c.toUpper, rest, capitalize_of_isLower hc hrest, isUpper_toUpper hc, hne, hrest⟩

theorem IsWord.capitalize_map_toLower {word : List Char} (h : IsWord Char.isUpper word) :
    Text.capitalize (word.map Char.toLower) = word := by
  obtain ⟨c, rest, rfl, hc, -, hrest⟩ := h
  rw [List.map_cons, map_toLower_of_tail hrest, capitalize_of_isLower (isLower_toLower hc) hrest,
    Char.toUpper_toLower_eq_toUpper,
    Char.toUpper_eq_of_not_isLower (Char.not_isLower_of_isUpper hc)]

theorem IsWord.map_toLower_capitalize {word : List Char} (h : IsWord Char.isLower word) :
    (Text.capitalize word).map Char.toLower = word := by
  obtain ⟨c, rest, rfl, hc, -, hrest⟩ := h
  rw [capitalize_of_isLower hc hrest, List.map_cons, map_toLower_of_tail hrest,
    toLower_toUpper hc]

/-! ### From camel form to snake form -/

/-- No word begins inside of small letters and digits. -/
theorem separated_cons_of_tail (a : Char) {rest : List Char}
    (h : ∀ d ∈ rest, d.isLower ∨ d.isDigit) : separated (a :: rest) = a :: rest := by
  induction rest generalizing a with
  | nil => rfl
  | cons d rest ih =>
      rw [List.forall_mem_cons] at h
      rw [separated_cons_of_not (not_endsWord_of_not_isUpper (not_isUpper_of_tail h.1)), ih d h.2]

/-- A word ends where a capital letter comes next, and not before. -/
theorem separated_append_of_isUpper (a : Char) {rest : List Char} (hne : rest ≠ [])
    (h : ∀ d ∈ rest, d.isLower ∨ d.isDigit) {c : Char} (hc : c.isUpper) (next : List Char) :
    separated (a :: rest ++ c :: next) = a :: rest ++ '_' :: separated (c :: next) := by
  induction rest generalizing a with
  | nil => exact absurd rfl hne
  | cons d rest ih =>
      rw [List.forall_mem_cons] at h
      have hinside : ¬ EndsWord (a :: d :: (rest ++ c :: next)) :=
        not_endsWord_of_not_isUpper (not_isUpper_of_tail h.1)
      have hstep : separated (a :: d :: rest ++ c :: next) =
          a :: separated (d :: rest ++ c :: next) := separated_cons_of_not hinside
      cases rest with
      | nil =>
          have hends : EndsWord (d :: c :: next) :=
            endsWord_cons_cons.2 ⟨hc, h.1.elim .inl fun hd => .inr (.inl hd)⟩
          rw [hstep, List.singleton_append, separated_cons_of hends]
          rfl
      | cons e rest =>
          rw [hstep, ih d (List.cons_ne_nil e rest) h.2]
          rfl

/-- In camel form an underscore is put between every two words. -/
theorem separated_flatten {words : List (List Char)}
    (h : ∀ word ∈ words, IsWord Char.isUpper word) :
    separated words.flatten = joinWith ['_'] words := by
  induction words with
  | nil => rfl
  | cons word words ih =>
      rw [List.forall_mem_cons] at h
      obtain ⟨⟨a, rest, rfl, -, hne, hrest⟩, hwords⟩ := h
      cases words with
      | nil =>
          rw [List.flatten_singleton]
          exact separated_cons_of_tail a hrest
      | cons next words =>
          obtain ⟨c, tail, rfl, hc, -, -⟩ := hwords next List.mem_cons_self
          have hflatten : ((c :: tail) :: words).flatten = c :: (tail ++ words.flatten) := rfl
          rw [joinWith, ← ih hwords, List.flatten_cons, hflatten,
            separated_append_of_isUpper a hne hrest hc, List.append_assoc, List.singleton_append]

/-- The snake form of words with capital letters. -/
theorem snakeChars_flatten {words : List (List Char)}
    (h : ∀ word ∈ words, IsWord Char.isUpper word) :
    snakeChars words.flatten = joinWith ['_'] (words.map (List.map Char.toLower)) := by
  have hunderscore : ∀ c ∈ ['_'], isAscii c = true := List.forall_mem_singleton.2 rfl
  have hascii : ∀ c ∈ joinWith ['_'] words, isAscii c = true :=
    forall_mem_joinWith hunderscore fun word hword =>
      (h word hword).ascii fun _ => isAscii_of_isUpper
  rw [snakeChars_eq_lower_separated, separated_flatten h, lower_of_ascii hascii, map_joinWith]
  rfl

/-! ### From snake form to camel form -/

theorem underscore_not_mem_of_tail {c : Char} {rest : List Char} (hc : c.isLower)
    (hrest : ∀ d ∈ rest, d.isLower ∨ d.isDigit) : '_' ∉ c :: rest := by
  rw [List.mem_cons, not_or]
  exact ⟨ne_underscore_of_tail (.inl hc), fun hmem => ne_underscore_of_tail (hrest _ hmem) rfl⟩

theorem allLower_of_tail {c : Char} {rest : List Char} (hc : c.isLower)
    (hrest : ∀ d ∈ rest, d.isLower ∨ d.isDigit) : allLower (c :: rest) = true := by
  have hlower : isLowercase c = true := by rwa [isLowercase_of_ascii (isAscii_of_isLower hc)]
  have hupper : ∀ d ∈ c :: rest, ¬ isUppercase d = true := by
    rw [List.forall_mem_cons]
    refine ⟨?_, fun d hd => ?_⟩
    · rw [isUppercase_of_ascii (isAscii_of_isLower hc)]
      exact Char.not_isUpper_of_isLower hc
    · rw [isUppercase_of_ascii (isAscii_of_tail (hrest d hd))]
      exact not_isUpper_of_tail (hrest d hd)
  rw [Text.allLower, List.any_eq_false.2 hupper, List.any_cons, hlower]
  rfl

/-- The camel form of pieces in lower case. One piece alone is recognized by its letters, and
several pieces by the underscores between them. -/
theorem camelChars_joinWith_of_allLower {words : List (List Char)} (hne : words ≠ [])
    (hmem : ∀ word ∈ words, '_' ∉ word) (hlower : ∀ word ∈ words, allLower word = true) :
    camelChars (joinWith ['_'] words) = words.flatMap capitalize := by
  match words, hne with
  | [word], _ =>
      rw [List.forall_mem_singleton] at hmem hlower
      rw [joinWith, camelChars, if_neg hmem, if_pos hlower, List.flatMap_singleton]
  | word :: next :: words, hne =>
      have hjoin : '_' ∈ joinWith ['_'] (word :: next :: words) := by simp [joinWith]
      rw [camelChars_of_mem hjoin, pieces_joinWith hne hmem]

/-- The camel form of words with small letters. -/
theorem camelChars_joinWith {words : List (List Char)} (hne : words ≠ [])
    (h : ∀ word ∈ words, IsWord Char.isLower word) :
    camelChars (joinWith ['_'] words) = words.flatMap capitalize := by
  refine camelChars_joinWith_of_allLower hne (fun word hword => ?_) fun word hword => ?_
  · obtain ⟨c, rest, rfl, hc, -, hrest⟩ := h word hword
    exact underscore_not_mem_of_tail hc hrest
  · obtain ⟨c, rest, rfl, hc, -, hrest⟩ := h word hword
    exact allLower_of_tail hc hrest

/-! ### There and back -/

theorem camel_snake_of_isCamel {name : String} (h : IsCamel name) :
    IsSnake (snake name) ∧ camel (snake name) = name := by
  obtain ⟨words, hne, hwords, hname⟩ := h
  have hsnake : (snake name).toList = joinWith ['_'] (words.map (List.map Char.toLower)) := by
    rw [toList_snake, hname, snakeChars_flatten hwords]
  have hne' : words.map (List.map Char.toLower) ≠ [] := by simpa using hne
  have hlower : ∀ word ∈ words.map (List.map Char.toLower), IsWord Char.isLower word :=
    List.forall_mem_map.2 fun word hword => (hwords word hword).map_toLower
  refine ⟨⟨_, hne', hlower, hsnake⟩, String.toList_injective ?_⟩
  calc (camel (snake name)).toList
      = (words.map (List.map Char.toLower)).flatMap capitalize := by
        rw [toList_camel, hsnake, camelChars_joinWith hne' hlower]
    _ = words.flatMap id := by
        rw [List.flatMap_map, List.flatMap_def, List.flatMap_def]
        exact congrArg List.flatten
          (List.map_congr_left fun word hword => (hwords word hword).capitalize_map_toLower)
    _ = name.toList := by rw [List.flatMap_id, hname]

theorem snake_camel_of_isSnake {name : String} (h : IsSnake name) :
    IsCamel (camel name) ∧ snake (camel name) = name := by
  obtain ⟨words, hne, hwords, hname⟩ := h
  have hcamel : (camel name).toList = (words.map capitalize).flatten := by
    rw [toList_camel, hname, camelChars_joinWith hne hwords, List.flatMap_def]
  have hupper : ∀ word ∈ words.map capitalize, IsWord Char.isUpper word :=
    List.forall_mem_map.2 fun word hword => (hwords word hword).capitalize
  refine ⟨⟨_, by simpa using hne, hupper, hcamel⟩, String.toList_injective ?_⟩
  calc (snake (camel name)).toList
      = joinWith ['_'] ((words.map capitalize).map (List.map Char.toLower)) := by
        rw [toList_snake, hcamel, snakeChars_flatten hupper]
    _ = joinWith ['_'] words := by
        rw [List.map_map]
        exact congrArg (joinWith ['_']) ((List.map_congr_left fun word hword =>
          (hwords word hword).map_toLower_capitalize).trans (List.map_id words))
    _ = name.toList := hname.symm

/-- The snake form of a name in camel form is in snake form, and the camel form of a name in snake
form is in camel form. Either way the other spelling gives the name back. -/
theorem camel_snake_inverse :
    (∀ name, IsCamel name → IsSnake (snake name) ∧ camel (snake name) = name) ∧
    ∀ name, IsSnake name → IsCamel (camel name) ∧ snake (camel name) = name :=
  ⟨fun _ => camel_snake_of_isCamel, fun _ => snake_camel_of_isSnake⟩

/-- Names with digits where words end, with a word of digits behind its letter, and with a word
alone. -/
theorem camel_snake_inverse_digits :
    (IsCamel "Expr2B10Thing" ∧ IsSnake (snake "Expr2B10Thing") ∧
      camel (snake "Expr2B10Thing") = "Expr2B10Thing") ∧
    IsSnake "x0" ∧ IsCamel (camel "x0") ∧ snake (camel "x0") = "x0" := by
  have hcamel : IsCamel "Expr2B10Thing" := by
    refine ⟨[['E', 'x', 'p', 'r', '2'], ['B', '1', '0'], ['T', 'h', 'i', 'n', 'g']], by simp, ?_,
      by rfl⟩
    simp [IsWord, Char.isUpper, Char.isLower, Char.isDigit]
  have hsnake : IsSnake "x0" :=
    ⟨[['x', '0']], by simp, by simp [IsWord, Char.isLower, Char.isDigit], by rfl⟩
  exact ⟨⟨hcamel, camel_snake_inverse.1 _ hcamel⟩, hsnake, camel_snake_inverse.2 _ hsnake⟩

end ParserTables.Naming
