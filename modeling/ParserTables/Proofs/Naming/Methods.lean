import Mathlib
import ParserTables.Naming.Symbol
import ParserTables.Proofs.Naming.Words
import ParserTables.Proofs.Text.Code

/-!
# Methods are told apart by their names

The name of a builder method shows the blank of its tag as a text. In the interpreted target it is
`_P`, and the only `_P` in the name are those of the blanks unless the tag has one of its own: a
blank is shown with an underscore first, so neither a `P` behind it nor an underscore before it can
make up another one. In the compiled target the number comes after the last underscore, whatever
the snake form in front looks like, and this snake form is the one of a name in camel form. Either
way the tag can be read back (`method_names_keep_tags_apart`).
-/

namespace ParserTables.Text

theorem cutAtFirst?_append {sep : Char} {before : List Char} (h : sep ∉ before)
    (after : List Char) : cutAtFirst? sep (before ++ sep :: after) = some (before, after) := by
  induction before with
  | nil => rw [List.nil_append, cutAtFirst?, if_pos rfl]
  | cons c before ih =>
      obtain ⟨hc, hbefore⟩ := not_or.1 (mt List.mem_cons.2 h)
      rw [List.cons_append, cutAtFirst?, if_neg (Ne.symm hc), ih hbefore, Option.map_some]

/-- What stands behind the last separator is known, and so is what stands in front of it. -/
theorem append_cons_inj_of_not_mem {sep : Char} {cs cs' last last' : List Char}
    (h : sep ∉ last) (h' : sep ∉ last') (heq : cs ++ sep :: last = cs' ++ sep :: last') :
    cs = cs' ∧ last = last' := by
  have hreverse : last.reverse ++ sep :: cs.reverse = last'.reverse ++ sep :: cs'.reverse := by
    simpa using congrArg List.reverse heq
  have hfree : ∀ {text : List Char}, sep ∉ text → ∀ d ∈ text.reverse, ¬ d = sep :=
    fun htext d hd hsep => htext (hsep ▸ List.mem_reverse.1 hd)
  have hlast : last.reverse = last'.reverse :=
    eq_of_append_of_opens (hfree h) (hfree h') (by simp) (by simp) hreverse
  rw [List.reverse_injective hlast] at heq ⊢
  exact ⟨List.append_cancel_right heq, rfl⟩

end ParserTables.Text

namespace ParserTables.Naming

open ParserTables.Text

/-! ### Names in the interpreted target -/

/-- A blank in place of each `_P`, from left to right. -/
def blanksRestored : List Char → List Char
  | '_' :: 'P' :: rest => ' ' :: blanksRestored rest
  | c :: rest => c :: blanksRestored rest
  | [] => []

theorem blanksRestored_cons_of_not {c : Char} {rest : List Char} (h : ¬ ['_', 'P'] <+: c :: rest) :
    blanksRestored (c :: rest) = c :: blanksRestored rest := by
  rw [blanksRestored]
  rintro rest' rfl rfl
  exact h ⟨rest', rfl⟩

theorem toList_interpretedMethod (tag : String) :
    (interpretedMethod tag).toList = replaceChar ' ' ['_', 'P'] tag.toList := by
  rw [interpretedMethod, String.toList_ofList]

/-- A blank is not shown with a `P` in front. -/
theorem prefix_of_prefix_replaceChar {tag : List Char}
    (h : ['P'] <+: replaceChar ' ' ['_', 'P'] tag) : ['P'] <+: tag := by
  cases tag with
  | nil => exact h
  | cons c tag =>
      rw [replaceChar, List.flatMap_cons] at h
      split at h
      · simp at h
      · simpa using h

theorem blanksRestored_replaceChar {tag : List Char} (h : ¬ ['_', 'P'] <:+: tag) :
    blanksRestored (replaceChar ' ' ['_', 'P'] tag) = tag := by
  induction tag with
  | nil => rfl
  | cons c tag ih =>
      rw [List.infix_cons_iff, not_or] at h
      have hrest := ih h.2
      by_cases hc : c = ' '
      · rw [hc]
        exact congrArg (' ' :: ·) hrest
      · -- An underscore that is not followed by a `P` is not followed by one in the name either.
        have hstep : replaceChar ' ' ['_', 'P'] (c :: tag) =
            c :: replaceChar ' ' ['_', 'P'] tag := by
          simp [replaceChar, hc]
        have hprefix : ¬ ['_', 'P'] <+: c :: replaceChar ' ' ['_', 'P'] tag := by
          rw [List.cons_prefix_cons] at h ⊢
          exact fun hpair => h.1 ⟨hpair.1, prefix_of_prefix_replaceChar hpair.2⟩
        rw [hstep, blanksRestored_cons_of_not hprefix, hrest]

/-! ### Names in the compiled target -/

/-- A tag with a number: a name that is made of words with capital letters, and behind a blank some
digits. -/
def IsNumbered (tag : String) : Prop :=
  ∃ (words : List (List Char)) (number : List Char), (∀ word ∈ words, IsWord Char.isUpper word) ∧
    (number ≠ [] ∧ ∀ d ∈ number, d.isDigit) ∧ tag.toList = words.flatten ++ ' ' :: number

theorem toList_compiledMethod {tag : String} {name number : List Char} (h : ' ' ∉ name)
    (htag : tag.toList = name ++ ' ' :: number) :
    (compiledMethod tag).toList = snakeChars name ++ '_' :: 'p' :: number := by
  rw [compiledMethod, htag, cutAtFirst?_append h]
  simp

theorem blank_not_mem_flatten {words : List (List Char)}
    (h : ∀ word ∈ words, IsWord Char.isUpper word) : ' ' ∉ words.flatten := by
  intro hmem
  obtain ⟨word, hword, hblank⟩ := List.mem_flatten.1 hmem
  obtain ⟨c, rest, rfl, hc, -, hrest⟩ := h word hword
  rcases List.mem_cons.1 hblank with rfl | hblank
  · exact absurd hc (by decide)
  · exact absurd (hrest _ hblank) (by decide)

/-- The name in front of the number can be read back from its snake form, also if it has no word. -/
theorem camelChars_snakeChars_flatten {words : List (List Char)}
    (h : ∀ word ∈ words, IsWord Char.isUpper word) :
    camelChars (snakeChars words.flatten) = words.flatten := by
  by_cases hne : words = []
  · rw [hne]
    rfl
  have hcamel : IsCamel (String.ofList words.flatten) :=
    ⟨words, hne, h, String.toList_ofList⟩
  have hname := congrArg String.toList (camel_snake_of_isCamel hcamel).2
  rwa [toList_camel, toList_snake, String.toList_ofList] at hname

theorem underscore_not_mem_of_isDigit {number : List Char} (h : ∀ d ∈ number, d.isDigit) :
    '_' ∉ 'p' :: number := by
  rw [List.mem_cons, not_or]
  exact ⟨by decide, fun hmem => absurd (h _ hmem) (by decide)⟩

theorem compiledMethod_inj {s t : String} (hs : IsNumbered s) (ht : IsNumbered t)
    (h : compiledMethod s = compiledMethod t) : s = t := by
  obtain ⟨words, number, hwords, ⟨-, hnumber⟩, hs⟩ := hs
  obtain ⟨words', number', hwords', ⟨-, hnumber'⟩, ht⟩ := ht
  have heq := congrArg String.toList h
  rw [toList_compiledMethod (blank_not_mem_flatten hwords) hs,
    toList_compiledMethod (blank_not_mem_flatten hwords') ht] at heq
  obtain ⟨hsnake, hlast⟩ := append_cons_inj_of_not_mem (underscore_not_mem_of_isDigit hnumber)
    (underscore_not_mem_of_isDigit hnumber') heq
  have hname : words.flatten = words'.flatten := by
    rw [← camelChars_snakeChars_flatten hwords, hsnake, camelChars_snakeChars_flatten hwords']
  refine String.toList_injective ?_
  rw [hs, ht, hname, (List.cons.inj hlast).2]

/-! ### Both names -/

/-- The interpreted name of a tag without `_P` gives the tag back when each `_P` is read as a blank,
so no two such tags have one name. No two tags that consist of a name in camel form and a number
have one name in the compiled target. -/
theorem method_names_keep_tags_apart :
    (∀ tag : String, ¬ ['_', 'P'] <:+: tag.toList →
      String.ofList (blanksRestored (interpretedMethod tag).toList) = tag) ∧
    (∀ s t : String, ¬ ['_', 'P'] <:+: s.toList → ¬ ['_', 'P'] <:+: t.toList →
      interpretedMethod s = interpretedMethod t → s = t) ∧
    ∀ s t : String, IsNumbered s → IsNumbered t → compiledMethod s = compiledMethod t → s = t := by
  have hread : ∀ tag : String, ¬ ['_', 'P'] <:+: tag.toList →
      String.ofList (blanksRestored (interpretedMethod tag).toList) = tag := by
    intro tag htag
    rw [toList_interpretedMethod, blanksRestored_replaceChar htag, String.ofList_toList]
  refine ⟨hread, fun s t hs ht h => ?_, fun s t => compiledMethod_inj⟩
  rw [← hread s hs, h, hread t ht]

/-- A tag that has the text for a blank itself is taken for one with a blank. -/
example : interpretedMethod "A 1" = interpretedMethod "A_P1" := by rfl

/-- A blank between an underscore and a `P`, and a name whose snake form ends like a number. -/
theorem method_names_keep_tags_apart_crowded :
    (¬ ['_', 'P'] <:+: "P_ P_".toList ∧ interpretedMethod "P_ P_" = "P__PP_" ∧
      String.ofList (blanksRestored "P__PP_".toList) = "P_ P_" ∧
      ∀ t, ¬ ['_', 'P'] <:+: t.toList → interpretedMethod t = "P__PP_" → t = "P_ P_") ∧
    IsNumbered "FooP2 10" ∧ compiledMethod "FooP2 10" = "foo_p2_p10" ∧
      ∀ t, IsNumbered t → compiledMethod t = "foo_p2_p10" → t = "FooP2 10" := by
  have hfree : ¬ ['_', 'P'] <:+: "P_ P_".toList := by decide
  have hinterpreted : interpretedMethod "P_ P_" = "P__PP_" := by rfl
  have hnumbered : IsNumbered "FooP2 10" := by
    refine ⟨[['F', 'o', 'o'], ['P', '2']], ['1', '0'], ?_, ?_, by rfl⟩
    · simp [IsWord, Char.isUpper, Char.isLower, Char.isDigit]
    · simp [Char.isDigit]
  have hcompiled : compiledMethod "FooP2 10" = "foo_p2_p10" := by rfl
  obtain ⟨hread, hapart, hapart'⟩ := method_names_keep_tags_apart
  refine ⟨⟨hfree, hinterpreted, ?_, fun t ht h => ?_⟩, hnumbered, hcompiled, fun t ht h => ?_⟩
  · exact hinterpreted ▸ hread "P_ P_" hfree
  · exact hapart t "P_ P_" ht hfree (h.trans hinterpreted.symm)
  · exact hapart' t "FooP2 10" ht hnumbered (h.trans hcompiled.symm)

end ParserTables.Naming
