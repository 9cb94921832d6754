import Mathlib
import ParserTables.Naming.Symbol
import ParserTables.Proofs.Naming.Words

/-!
# The shapes of names

What characters the names of a nonterminal are made of, when its own name and its parameters are
made of letters, digits and underscores. Nothing is asked about where the underscores stand, so the
pieces between them may be empty, and may begin with a digit. The first piece holds the first letter
of the name; it alone decides how the camel form begins (`nonterminal_forms_shaped`).
-/

namespace ParserTables.Text

/-- The first character of a text stands in front of its first piece, unless it separates. -/
theorem exists_pieces_cons {sep c : Char} (h : c ≠ sep) (rest : List Char) :
    ∃ piece further, pieces sep (c :: rest) = (c :: piece) :: further := by
  obtain ⟨piece, further, hrest⟩ := List.exists_cons_of_ne_nil (pieces_ne_nil sep rest)
  exact ⟨piece, further, by rw [pieces_cons, if_neg h, hrest, pushFront]⟩

/-- The pieces of a text hold its characters without the separators. -/
theorem mem_and_ne_of_mem_pieces {sep : Char} {cs piece : List Char} (h : piece ∈ pieces sep cs)
    {d : Char} (hd : d ∈ piece) : d ∈ cs ∧ d ≠ sep := by
  induction cs generalizing piece with
  | nil =>
      rw [pieces_nil, List.mem_singleton] at h
      rw [h] at hd
      cases hd
  | cons c rest ih =>
      rw [List.mem_cons]
      by_cases hc : c = sep
      · rw [pieces_cons, if_pos hc] at h
        rcases List.mem_cons.1 h with rfl | h
        · cases hd
        · exact (ih h hd).imp_left .inr
      · obtain ⟨first, further, hrest⟩ := List.exists_cons_of_ne_nil (pieces_ne_nil sep rest)
        rw [hrest] at ih
        rw [pieces_cons, if_neg hc, hrest, pushFront] at h
        rcases List.mem_cons.1 h with rfl | h
        · rcases List.mem_cons.1 hd with rfl | hd
          · exact ⟨.inl rfl, hc⟩
          · exact (ih List.mem_cons_self hd).imp_left .inr
        · exact (ih (List.mem_cons_of_mem _ h) hd).imp_left .inr

end ParserTables.Text

namespace ParserTables.Grammar

/-- The parameters of a nonterminal that are bound to true, in their order. -/
def Nonterminal.trueParameters (nt : Nonterminal) : List String :=
  (nt.args.filter (·.2)).map Prod.fst

theorem Nonterminal.exists_of_mem_trueParameters {nt : Nonterminal} {param : String}
    (h : param ∈ nt.trueParameters) : ∃ arg ∈ nt.args, arg.1 = param := by
  obtain ⟨arg, harg, rfl⟩ := List.mem_map.1 h
  exact ⟨arg, (List.mem_filter.1 harg).1, rfl⟩

end ParserTables.Grammar

namespace ParserTables.Naming

open ParserTables.Grammar ParserTables.Text

/-! ### Shapes -/

/-- A text with a character of one kind in front, and behind it characters of another kind. -/
def Shaped (first tail : Char → Prop) (text : List Char) : Prop :=
  ∃ c rest, text = c :: rest ∧ first c ∧ ∀ d ∈ rest, tail d

/-- A letter, a digit or an underscore. -/
def IsNameChar (c : Char) : Prop := c.isAlphanum ∨ c = '_'

/-- A small letter, a digit or an underscore. -/
def IsSnakeChar (c : Char) : Prop := c.isLower ∨ c.isDigit ∨ c = '_'

theorem Shaped.append {first tail : Char → Prop} {text more : List Char} (h : Shaped first tail text)
    (hmore : ∀ d ∈ more, tail d) : Shaped first tail (text ++ more) := by
  obtain ⟨c, rest, rfl, hc, hrest⟩ := h
  exact ⟨c, rest ++ more, rfl, hc, List.forall_mem_append.2 ⟨hrest, hmore⟩⟩

theorem isLower_of_isAlpha {c : Char} (h : c.isAlpha) : c.toLower.isLower := by
  rwa [Char.isLower_toLower_eq_isAlpha]

theorem IsNameChar.ascii {c : Char} (h : IsNameChar c) : isAscii c = true := by
  rcases h with h | rfl
  · exact isAscii_of_isAlphanum h
  · rfl

theorem IsNameChar.toLower {c : Char} (h : IsNameChar c) : IsSnakeChar c.toLower := by
  rcases h with h | rfl
  · rcases Bool.or_eq_true_iff.1 h with h | h
    · exact .inl (isLower_of_isAlpha h)
    · rw [Char.toLower_eq_of_not_isUpper (not_isUpper_of_tail (.inr h))]
      exact .inr (.inl h)
  · exact .inr (.inr rfl)

theorem IsSnakeChar.tail {c : Char} (h : IsSnakeChar c) (hc : c ≠ '_') : c.isLower ∨ c.isDigit :=
  h.imp_right fun h => h.resolve_right hc

theorem isAlphanum_of_tail {d : Char} (h : d.isLower ∨ d.isDigit) : d.isAlphanum := by
  rcases h with h | h
  · simp [Char.isAlphanum, Char.isAlpha, h]
  · simp [Char.isAlphanum, h]

theorem isAlphanum_toUpper_of_tail {d : Char} (h : d.isLower ∨ d.isDigit) :
    d.toUpper.isAlphanum := by
  by_cases hd : d.isLower
  · simp [Char.isAlphanum, Char.isAlpha, isUpper_toUpper hd]
  · rw [Char.toUpper_eq_of_not_isLower hd]
    exact isAlphanum_of_tail h

/-! ### Snake forms -/

/-- Separating words keeps the first character in front, and adds underscores only. -/
theorem exists_separated_cons (c : Char) (rest : List Char) :
    ∃ tail, separated (c :: rest) = c :: tail := by
  rw [separated]
  split
  · exact ⟨_, rfl⟩
  · exact ⟨_, rfl⟩

theorem eq_underscore_or_mem_of_mem_separated {d : Char} {name : List Char}
    (h : d ∈ separated name) : d = '_' ∨ d ∈ name := by
  rw [← caseBreaks_wordBreaks false] at h
  exact (eq_underscore_or_mem_of_mem_caseBreaks _ h).elim .inl
    (eq_underscore_or_mem_of_mem_wordBreaks _ _)

theorem isNameChar_of_mem_separated {name : List Char} (h : ∀ c ∈ name, IsNameChar c) :
    ∀ d ∈ separated name, IsNameChar d := fun d hd =>
  (eq_underscore_or_mem_of_mem_separated hd).elim .inr (h d)

theorem snakeChars_of_isNameChar {name : List Char} (h : ∀ c ∈ name, IsNameChar c) :
    snakeChars name = (separated name).map Char.toLower := by
  rw [snakeChars_eq_lower_separated,
    lower_of_ascii fun d hd => (isNameChar_of_mem_separated h d hd).ascii]

theorem isSnakeChar_of_mem_snakeChars {name : List Char} (h : ∀ c ∈ name, IsNameChar c) :
    ∀ d ∈ snakeChars name, IsSnakeChar d := by
  rw [snakeChars_of_isNameChar h]
  exact List.forall_mem_map.2 fun d hd => (isNameChar_of_mem_separated h d hd).toLower

theorem Shaped.forall_isNameChar {name : List Char} (h : Shaped (·.isAlpha) IsNameChar name) :
    ∀ c ∈ name, IsNameChar c := by
  obtain ⟨c, rest, rfl, hc, hrest⟩ := h
  exact List.forall_mem_cons.2 ⟨.inl (Bool.or_eq_true_iff.2 (.inl hc)), hrest⟩

/-- The first letter of a name is the first letter of its snake form. -/
theorem shaped_snakeChars {name : List Char} (h : Shaped (·.isAlpha) IsNameChar name) :
    Shaped (·.isLower) IsSnakeChar (snakeChars name) := by
  have hname := h.forall_isNameChar
  have hsnake := isSnakeChar_of_mem_snakeChars hname
  obtain ⟨c, rest, rfl, hc, -⟩ := h
  obtain ⟨tail, htail⟩ := exists_separated_cons c rest
  rw [snakeChars_of_isNameChar hname, htail, List.map_cons] at hsnake ⊢
  exact ⟨c.toLower, _, rfl, isLower_of_isAlpha hc, (List.forall_mem_cons.1 hsnake).2⟩

/-! ### Camel forms -/

theorem isAlphanum_of_mem_capitalize {piece : List Char} (h : ∀ d ∈ piece, d.isLower ∨ d.isDigit) :
    ∀ d ∈ capitalize piece, d.isAlphanum := by
  cases piece with
  | nil => exact nofun
  | cons c rest =>
      have hascii : ∀ d ∈ c :: rest, isAscii d = true := fun d hd => isAscii_of_tail (h d hd)
      rw [List.forall_mem_cons] at h hascii
      rw [capitalize_of_ascii hascii.1 hascii.2, map_toLower_of_tail h.2, List.forall_mem_cons]
      exact ⟨isAlphanum_toUpper_of_tail h.1, fun d hd => isAlphanum_of_tail (h.2 d hd)⟩

/-- A snake form without underscores is one piece, and is known by its letters. -/
theorem camelChars_of_shaped {name : List Char} (h : Shaped (·.isLower) IsSnakeChar name) :
    camelChars name = (pieces '_' name).flatMap capitalize := by
  by_cases hmem : '_' ∈ name
  · exact camelChars_of_mem hmem
  obtain ⟨c, rest, rfl, hc, hrest⟩ := h
  have htail : ∀ d ∈ rest, d.isLower ∨ d.isDigit := fun d hd =>
    (hrest d hd).tail fun heq => hmem (List.mem_cons_of_mem c (heq ▸ hd))
  rw [camelChars, if_neg hmem, if_pos (allLower_of_tail hc htail), pieces_of_not_mem hmem,
    List.flatMap_singleton]

/-- The camel form of a snake form begins with the first letter in upper case. -/
theorem shaped_camelChars {name : List Char} (h : Shaped (·.isLower) IsSnakeChar name) :
    Shaped (·.isUpper) (·.isAlphanum) (camelChars name) := by
  have hpieces : ∀ piece ∈ pieces '_' name, ∀ d ∈ piece, d.isLower ∨ d.isDigit := by
    intro piece hpiece d hd
    obtain ⟨hmem, hne⟩ := mem_and_ne_of_mem_pieces hpiece hd
    obtain ⟨c, rest, rfl, hc, hrest⟩ := h
    rcases List.mem_cons.1 hmem with rfl | hmem
    · exact .inl hc
    · exact (hrest d hmem).tail hne
  rw [camelChars_of_shaped h]
  obtain ⟨c, rest, rfl, hc, -⟩ := h
  have hne : c ≠ '_' := by
    rintro rfl
    exact absurd hc (by decide)
  obtain ⟨piece, further, hcut⟩ := exists_pieces_cons hne rest
  rw [hcut, List.forall_mem_cons, List.forall_mem_cons] at hpieces
  rw [hcut, List.flatMap_cons, capitalize_of_isLower hc hpieces.1.2]
  refine Shaped.append ⟨c.toUpper, piece, rfl, isUpper_toUpper hc, fun d hd =>
    isAlphanum_of_tail (hpieces.1.2 d hd)⟩ fun d hd => ?_
  obtain ⟨next, hnext, hd⟩ := List.mem_flatMap.1 hd
  exact isAlphanum_of_mem_capitalize (hpieces.2 next hnext) d hd

/-! ### Nonterminals -/

/-- The snake form of a nonterminal is made of those of its name and of its parameters that are
bound to true. -/
theorem toList_nonterminalSnake (nt : Nonterminal) :
    (nonterminalSnake nt).toList = snakeChars nt.name.toList ++
      nt.trueParameters.flatMap fun param => '_' :: snakeChars param.toList := by
  rw [nonterminalSnake, String.toList_append, toList_snake, String.toList_join,
    Nonterminal.trueParameters, List.flatMap_map, List.flatMap_map]
  simp [toList_snake]

/-- If the name of a nonterminal is a letter with letters, digits and underscores behind it, and its
parameters are made of such characters, then its snake form is a small letter with small letters,
digits and underscores behind it, and its camel form is a capital letter with letters and digits
behind it. For every nonterminal the two forms depend on its name and on the parameters that are
bound to true, and on nothing else. -/
theorem nonterminal_forms_shaped :
    (∀ nt : Nonterminal, Shaped (·.isAlpha) IsNameChar nt.name.toList →
      (∀ arg ∈ nt.args, ∀ c ∈ arg.1.toList, IsNameChar c) →
        Shaped (·.isLower) IsSnakeChar (nonterminalSnake nt).toList ∧
          Shaped (·.isUpper) (·.isAlphanum) (nonterminalCamel nt).toList) ∧
    ∀ nt nt' : Nonterminal, nt.name = nt'.name → nt.trueParameters = nt'.trueParameters →
      nonterminalSnake nt = nonterminalSnake nt' ∧ nonterminalCamel nt = nonterminalCamel nt' := by
  constructor
  · intro nt hname hargs
    have hparams : ∀ d ∈ nt.trueParameters.flatMap fun param => '_' :: snakeChars param.toList,
        IsSnakeChar d := by
      intro d hd
      obtain ⟨param, hparam, hd⟩ := List.mem_flatMap.1 hd
      obtain ⟨arg, harg, rfl⟩ := Nonterminal.exists_of_mem_trueParameters hparam
      rcases List.mem_cons.1 hd with rfl | hd
      · exact .inr (.inr rfl)
      · exact isSnakeChar_of_mem_snakeChars (hargs arg harg) d hd
    have hsnake : Shaped (·.isLower) IsSnakeChar (nonterminalSnake nt).toList := by
      rw [toList_nonterminalSnake]
      exact (shaped_snakeChars hname).append hparams
    refine ⟨hsnake, ?_⟩
    rw [nonterminalCamel, toList_camel]
    exact shaped_camelChars hsnake
  · intro nt nt' hname hparams
    have hsnake : nonterminalSnake nt = nonterminalSnake nt' := by
      refine String.toList_injective ?_
      rw [toList_nonterminalSnake, toList_nonterminalSnake, hname, hparams]
    exact ⟨hsnake, by rw [nonterminalCamel, nonterminalCamel, hsnake]⟩

/-- A nonterminal with a doubled underscore, with underscores at both ends of a parameter, with a
parameter without characters, and with one that begins with a digit. -/
def underscored : Nonterminal :=
  ⟨"A__b_", [("", true), ("0In", true), ("Yield", false), ("_x_", true)]⟩

/-- The forms of `underscored`, and of the same nonterminal without the parameter that is bound to
false. -/
theorem nonterminal_forms_shaped_underscored :
    (Shaped (·.isAlpha) IsNameChar underscored.name.toList ∧
      ∀ arg ∈ underscored.args, ∀ c ∈ arg.1.toList, IsNameChar c) ∧
    (nonterminalSnake underscored = "a__b___0_in__x_" ∧
      Shaped (·.isLower) IsSnakeChar "a__b___0_in__x_".toList) ∧
    (nonterminalCamel underscored = "AB0InX" ∧
      Shaped (·.isUpper) (·.isAlphanum) "AB0InX".toList) ∧
    nonterminalCamel ⟨"A__b_", [("", true), ("0In", true), ("_x_", true)]⟩ = "AB0InX" := by
  have hname : Shaped (·.isAlpha) IsNameChar underscored.name.toList :=
    ⟨'A', ['_', '_', 'b', '_'], by decide, by decide, by simp [IsNameChar]⟩
  have hargs : ∀ arg ∈ underscored.args, ∀ c ∈ arg.1.toList, IsNameChar c := by
    simp [underscored, IsNameChar]
  have hsnake : nonterminalSnake underscored = "a__b___0_in__x_" := by decide
  have hcamel : nonterminalCamel underscored = "AB0InX" := by decide
  obtain ⟨hshaped, hshaped'⟩ := nonterminal_forms_shaped.1 underscored hname hargs
  obtain ⟨-, hsame⟩ := nonterminal_forms_shaped.2 underscored
    ⟨"A__b_", [("", true), ("0In", true), ("_x_", true)]⟩ rfl rfl
  rw [hsnake] at hshaped
  rw [hcamel] at hshaped' hsame
  exact ⟨⟨hname, hargs⟩, ⟨hsnake, hshaped⟩, ⟨hcamel, hshaped'⟩, hsame.symm⟩

end ParserTables.Naming
