import Mathlib
import ParserTables.Proofs.Naming.Words
import ParserTables.Proofs.Text.LowerCase

/-!
# Snake forms are normal forms

A boundary between words is marked in front of a capital letter only, and lower case leaves none.
So neither pass has anything to do in a text that is in lower case, and the names that are their own
snake form are the ones in which lower case changes no character (`snakeChars_eq_self_iff`). The
snake form of every name is among them.
-/

namespace ParserTables.Naming

open ParserTables.Text

theorem not_isUpper_of_lowerChar {c : Char} (h : lowerChar c = [c]) : ¬ c.isUpper := by
  intro hupper
  rw [lowerChar_of_ascii (isAscii_of_isUpper hupper), List.singleton_inj] at h
  exact Char.not_isLower_of_isUpper hupper (h ▸ isLower_toLower hupper)

/-- No word begins where there is no capital letter. -/
theorem separated_eq_self {name : List Char} (h : ∀ c ∈ name, ¬ c.isUpper) :
    separated name = name := by
  induction name with
  | nil => rfl
  | cons a rest ih =>
      have hrest : ∀ c ∈ rest, ¬ c.isUpper := (List.forall_mem_cons.1 h).2
      cases rest with
      | nil => rfl
      | cons b rest =>
          have hb : ¬ b.isUpper := hrest b List.mem_cons_self
          rw [separated_cons_of_not (not_endsWord_of_not_isUpper hb), ih hrest]

theorem lowerChar_of_mem_snakeChars {name : List Char} {c : Char} (h : c ∈ snakeChars name) :
    lowerChar c = [c] := by
  rw [snakeChars_eq_lower_separated] at h
  exact lowerChar_of_mem_lowerAfter [] h

/-- The names that are their own snake form. -/
theorem snakeChars_eq_self_iff {name : List Char} :
    snakeChars name = name ↔ ∀ c ∈ name, lowerChar c = [c] := by
  refine ⟨fun h c hc => lowerChar_of_mem_snakeChars (h.symm ▸ hc), fun h => ?_⟩
  rw [snakeChars_eq_lower_separated,
    separated_eq_self fun c hc => not_isUpper_of_lowerChar (h c hc), lower_eq_self_iff.2 h]

/-- The snake form of a name has no capital letter of ASCII, and is its own snake form. -/
theorem snake_is_normal_form (name : String) :
    (∀ c ∈ (snake name).toList, ¬ c.isUpper) ∧ snake (snake name) = snake name := by
  have hsettled : ∀ c ∈ (snake name).toList, lowerChar c = [c] := by
    rw [toList_snake]
    exact fun c => lowerChar_of_mem_snakeChars
  refine ⟨fun c hc => not_isUpper_of_lowerChar (hsettled c hc), String.toList_injective ?_⟩
  rw [toList_snake, snakeChars_eq_self_iff.2 hsettled]

/-- A letter that becomes two, and sigmas at the end of a word and inside of one. -/
example : snakeChars ['İ', 'Σ', 'A', 'Σ', 'b', 'Σ'] =
    ['i', '\u0307', 'σ', 'a', 'σ', 'b', 'ς'] := by
  decide +kernel

end ParserTables.Naming
