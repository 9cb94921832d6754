import Mathlib
import ParserTables.Naming.Identifier

/-!
# Where the words of a name end

The two passes of the snake form together follow one rule, which looks at a character, the one
after it and the one after that (`EndsWord`). The first pass steps over the rest of a word that it
has separated, and so over boundaries; each of these follows a small letter, and the second pass
finds it. The second pass never meets a boundary again that the first one has marked, since an
underscore is neither a letter nor a digit.

Lower case is taken when the underscores are in place. A capital sigma in front of one ends a
word.
-/

namespace ParserTables.Naming

open ParserTables.Text

/-- A word ends with the first character of this text, and another word begins: the second
character is a capital letter, and the first one is a small letter or a digit, or it is any
character but a line break and a small letter comes third. -/
def EndsWord : List Char → Prop
  | a :: b :: rest =>
    b.isUpper ∧ (a.isLower ∨ a.isDigit ∨ a ≠ '\n' ∧ rest.head?.any Char.isLower)
  | _ => False

instance : DecidablePred EndsWord
  | a :: b :: rest => inferInstanceAs (Decidable
      (b.isUpper ∧ (a.isLower ∨ a.isDigit ∨ a ≠ '\n' ∧ rest.head?.any Char.isLower)))
  | [_] => isFalse id
  | [] => isFalse id

/-- The characters of a name in their order, with one underscore wherever a word ends and another
begins. -/
def separated : List Char → List Char
  | [] => []
  | a :: rest =>
    if EndsWord (a :: rest) then a :: '_' :: separated rest else a :: separated rest

theorem endsWord_cons_cons {a b : Char} {rest : List Char} :
    EndsWord (a :: b :: rest) ↔
      b.isUpper ∧ (a.isLower ∨ a.isDigit ∨ a ≠ '\n' ∧ rest.head?.any Char.isLower) := Iff.rfl

theorem not_endsWord_of_not_isUpper {a b : Char} {rest : List Char} (h : ¬ b.isUpper) :
    ¬ EndsWord (a :: b :: rest) := fun hends => h (endsWord_cons_cons.1 hends).1

@[simp] theorem separated_singleton (a : Char) : separated [a] = [a] := rfl

theorem separated_cons_of {a : Char} {rest : List Char} (h : EndsWord (a :: rest)) :
    separated (a :: rest) = a :: '_' :: separated rest := by
  rw [separated, if_pos h]

theorem separated_cons_of_not {a : Char} {rest : List Char} (h : ¬ EndsWord (a :: rest)) :
    separated (a :: rest) = a :: separated rest := by
  rw [separated, if_neg h]

/-! ### The two passes -/

theorem not_isDigit_of_isUpper {c : Char} (h : c.isUpper) : ¬ c.isDigit := by
  simp only [Char.isUpper, Char.isDigit, Bool.and_eq_true, decide_eq_true_eq, ge_iff_le,
    UInt32.le_iff_toNat_le, UInt32.reduceToNat, Char.reduceVal] at h ⊢
  omega

/-- What begins a word with a capital letter does not end one. -/
theorem not_isLower_or_isDigit_of_isUpper {c : Char} (h : c.isUpper) :
    ¬ (c.isLower ∨ c.isDigit) :=
  not_or.2 ⟨Char.not_isLower_of_isUpper h, not_isDigit_of_isUpper h⟩

/-- The first pass keeps the first character in front. -/
theorem exists_wordBreaks_cons (inWord : Bool) (a : Char) (rest : List Char) :
    ∃ tail, wordBreaks inWord (a :: rest) = a :: tail := by
  match rest with
  | [] => exact ⟨[], rfl⟩
  | [b] => exact ⟨[b], rfl⟩
  | b :: c :: rest =>
      rw [wordBreaks]
      split
      · exact ⟨_, rfl⟩
      · split
        · exact ⟨_, rfl⟩
        · exact ⟨_, rfl⟩

theorem caseBreaks_cons_of_not {a : Char} (h : ¬ (a.isLower ∨ a.isDigit)) (rest : List Char) :
    caseBreaks (a :: rest) = a :: caseBreaks rest := by
  cases rest with
  | nil => rfl
  | cons b rest => rw [caseBreaks, if_neg fun hbreak => h hbreak.1]

/-- The matches of the second pass cannot overlap: a match ends with a capital letter, and none
begins with one. -/
theorem caseBreaks_cons_cons (a b : Char) (rest : List Char) :
    caseBreaks (a :: b :: rest) =
      if (a.isLower ∨ a.isDigit) ∧ b.isUpper then a :: '_' :: caseBreaks (b :: rest)
      else a :: caseBreaks (b :: rest) := by
  rw [caseBreaks]
  split
  · next hbreak =>
      rw [caseBreaks_cons_of_not (not_isLower_or_isDigit_of_isUpper hbreak.2)]
  · rfl

/-- Where the first pass has marked no boundary, the second one decides. -/
theorem caseBreaks_cons_of_endsWord_iff {a b : Char} {rest tail : List Char}
    (h : EndsWord (a :: b :: rest) ↔ (a.isLower ∨ a.isDigit) ∧ b.isUpper)
    (htail : caseBreaks (b :: tail) = separated (b :: rest)) :
    caseBreaks (a :: b :: tail) = separated (a :: b :: rest) := by
  rw [caseBreaks_cons_cons, separated, htail]
  simp only [h]

/-- The second pass completes the first one, also when this starts inside a word. -/
theorem caseBreaks_wordBreaks (inWord : Bool) (name : List Char) :
    caseBreaks (wordBreaks inWord name) = separated name := by
  induction inWord, name using wordBreaks.induct with
  | case1 inWord a b c rest hword ih =>
      obtain ⟨tail, htail⟩ := exists_wordBreaks_cons true b (c :: rest)
      rw [wordBreaks, if_pos hword, htail]
      rw [htail] at ih
      have ha : a.isLower := (Bool.and_eq_true_iff.1 hword).2
      refine caseBreaks_cons_of_endsWord_iff ?_ ih
      rw [endsWord_cons_cons]
      tauto
  | case2 inWord a b c rest hword hbreak ih =>
      obtain ⟨hline, hb, hc⟩ := hbreak
      have hends : EndsWord (a :: b :: c :: rest) := ⟨hb, .inr (.inr ⟨hline, hc⟩)⟩
      have hinside : ¬ EndsWord (b :: c :: rest) :=
        not_endsWord_of_not_isUpper (Char.not_isUpper_of_isLower hc)
      calc caseBreaks (wordBreaks inWord (a :: b :: c :: rest))
          = caseBreaks (a :: '_' :: b :: wordBreaks true (c :: rest)) := by
            rw [wordBreaks, if_neg hword, if_pos ⟨hline, hb, hc⟩]
        _ = a :: '_' :: b :: caseBreaks (wordBreaks true (c :: rest)) := by
            rw [caseBreaks_cons_cons, if_neg (by simp), caseBreaks_cons_of_not (by simp),
              caseBreaks_cons_of_not (not_isLower_or_isDigit_of_isUpper hb)]
        _ = a :: '_' :: separated (b :: c :: rest) := by
            rw [ih, separated_cons_of_not hinside]
        _ = separated (a :: b :: c :: rest) := (separated_cons_of hends).symm
  | case3 inWord a b c rest hword hbreak ih =>
      obtain ⟨tail, htail⟩ := exists_wordBreaks_cons false b (c :: rest)
      rw [wordBreaks, if_neg hword, if_neg hbreak, htail]
      rw [htail] at ih
      refine caseBreaks_cons_of_endsWord_iff ?_ ih
      rw [endsWord_cons_cons, List.head?_cons, Option.any_some]
      tauto
  | case4 inWord short hshort =>
      rw [wordBreaks.eq_2 _ _ hshort]
      match short with
      | [] => rfl
      | [a] => rfl
      | [a, b] =>
          refine caseBreaks_cons_of_endsWord_iff ?_ (separated_singleton b).symm
          rw [endsWord_cons_cons, List.head?_nil, Option.any_none]
          tauto
      | a :: b :: c :: rest => exact absurd rfl (hshort a b c rest)

theorem snakeChars_eq_lower_separated (name : List Char) :
    snakeChars name = lower (separated name) := by
  rw [snakeChars, caseBreaks_wordBreaks]

/-- The snake form of a name is the lower case of its characters in their order, with one
underscore wherever a word ends and another begins, and with nothing else. -/
theorem toList_snake_eq_lower_separated (name : String) :
    (snake name).toList = lower (separated name.toList) := by
  rw [toList_snake, snakeChars_eq_lower_separated]

/-- Boundaries that only one of the passes finds, next to one that both would find. -/
example : separated ['a', 'B', 'c', 'D', '2', 'E', 'F', 'g'] =
    ['a', '_', 'B', 'c', '_', 'D', '2', '_', 'E', '_', 'F', 'g'] := by
  decide

end ParserTables.Naming
