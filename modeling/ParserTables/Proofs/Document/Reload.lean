import ParserTables.Proofs.Document.Loaded

/-!
# Documents survive being saved

A document that was loaded is saved as a text from which the same document is loaded again.
-/

namespace ParserTables.Document

open ParserTables.Grammar ParserTables.Json

variable {a : Automaton} {text : String}

theorem load_eq_ok :
    load text = .ok a ↔ automaton.scan Reader.levels (tokens text.toList) = .ok (a, []) := by
  rw [load, mapError_eq_ok, decodeText, Reader.whole, bind_eq_ok]
  constructor
  · rintro ⟨⟨a', rest⟩, hscan, h⟩
    dsimp only at h
    split at h
    · next hrest =>
      cases pure_eq_ok.1 h
      rw [hscan, List.isEmpty_iff.1 hrest]
    · cases h
  · intro hscan
    exact ⟨(a, []), hscan, rfl⟩

/-- A document that was loaded can be stored, and its value is within the levels of a text. -/
theorem storable_of_load (h : load text = .ok a) :
    (automatonTree a).Within Reader.levels ∧ a.Storable :=
  (yields_automaton Reader.levels _ a [] (fun _ => fits_of_mem_tokens) (load_eq_ok.1 h)).2

/-- A document that can be stored, and whose value is within the levels of a text, is loaded from
the text that is saved for it. -/
theorem load_save (hlevels : (automatonTree a).Within Reader.levels) (h : a.Storable) :
    load (save a) = .ok a := by
  rw [load_eq_ok, save, tokens_write hlevels.1]
  exact reads_automaton h Reader.levels hlevels.2 []

/-- These are the documents that survive. -/
theorem load_save_eq_ok_iff :
    load (save a) = .ok a ↔ (automatonTree a).Within Reader.levels ∧ a.Storable :=
  ⟨storable_of_load, fun h => load_save h.1 h.2⟩

/-- Whatever text a document was loaded from, the text that is saved for it nests no more arrays
and objects than a text may, the same document is loaded from it, and this is saved as the same
text again. -/
theorem load_save_of_load (text : String) (a : Automaton) (h : load text = .ok a) :
    (automatonTree a).depth ≤ Reader.levels ∧ load (save a) = .ok a ∧
      ∀ b, load (save a) = .ok b → b = a ∧ save b = save a := by
  have hsurvives := storable_of_load h
  have hreload : load (save a) = .ok a := load_save_eq_ok_iff.2 hsurvives
  refine ⟨hsurvives.1.2, hreload, fun b hb => ?_⟩
  obtain rfl : a = b := Except.ok.inj (hreload.symm.trans hb)
  exact ⟨rfl, rfl⟩

/-- A document whose records are arrays, with `end` as an object and most fields left out. -/
def terse : String := "[\x7b\x7d,[[[[\x7b\"end\":null\x7d,-1]]]],[],[[[\"S\"],0]]]"

/-- The automaton of `terse`. -/
def terseAutomaton : Automaton where
  grammar := ⟨.empty, .empty, []⟩
  states := [⟨⟨[(.endOfInput, -1)], by decide⟩, .empty, none, none⟩]
  productions := []
  goals := ⟨[(.plain "S", 0)], by decide⟩

/-- The text that is saved for `terse` is another one, and has the same automaton. -/
theorem load_save_of_load_terse :
    load terse = .ok terseAutomaton ∧ save terseAutomaton ≠ terse ∧
      load (save terseAutomaton) = .ok terseAutomaton := by
  have h : load terse = .ok terseAutomaton := by rfl
  exact ⟨h, by decide +kernel, (load_save_of_load terse terseAutomaton h).2.1⟩

end ParserTables.Document
