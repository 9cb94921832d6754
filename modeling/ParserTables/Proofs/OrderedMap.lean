import Mathlib.Data.List.Nodup
import ParserTables.OrderedMap

/-!
# Maps and their entries

Two maps whose entries are the same, up to their order, have the same value for every key. A list of
pairs makes a map exactly if its keys are distinct; otherwise the key that refuses it is the
earliest one that repeats an earlier key.
-/

namespace ParserTables.OrderedMap

variable {κ ν : Type} [DecidableEq κ] {m n : OrderedMap κ ν}

/-- Keys are distinct, so the value of a key is the value that stands beside it. -/
theorem get?_eq_some_iff {k : κ} {v : ν} : m.get? k = some v ↔ (k, v) ∈ m.entries := by
  constructor
  · intro h
    obtain ⟨before, after, heq, -⟩ := List.lookup_eq_some_iff.1 h
    rw [heq]
    exact List.mem_append_right _ List.mem_cons_self
  · intro h
    have hsome : (m.entries.lookup k).isSome = true :=
      List.lookup_isSome_iff.2 ⟨(k, v), h, beq_self_eq_true k⟩
    obtain ⟨w, hw⟩ := Option.isSome_iff_exists.1 hsome
    obtain ⟨before, after, heq, -⟩ := List.lookup_eq_some_iff.1 hw
    have hmem : (k, w) ∈ m.entries := by
      rw [heq]
      exact List.mem_append_right _ List.mem_cons_self
    obtain ⟨-, rfl⟩ := Prod.mk.inj (List.inj_on_of_nodup_map m.distinct hmem h rfl)
    exact hw

/-- The order of the entries has no part in the values. -/
theorem get?_eq_of_perm (h : m.entries.Perm n.entries) (k : κ) : m.get? k = n.get? k := by
  refine Option.ext fun v => ?_
  rw [get?_eq_some_iff, get?_eq_some_iff, h.mem_iff]

/-- The key that is found repeats a key that was seen or an earlier key, and no key before it
does. -/
theorem split_of_firstRepeated? {seen ks : List κ} {k : κ} (h : firstRepeated? seen ks = some k) :
    ∃ before after, ks = before ++ k :: after ∧ before.Nodup ∧ (∀ x ∈ before, x ∉ seen) ∧
      (k ∈ seen ∨ k ∈ before) := by
  induction ks generalizing seen with
  | nil => cases h
  | cons first ks ih =>
      rw [firstRepeated?] at h
      split at h
      · next hseen =>
        cases h
        exact ⟨[], ks, rfl, List.nodup_nil, fun _ hx => absurd hx List.not_mem_nil, .inl hseen⟩
      · next hseen =>
        obtain ⟨before, after, rfl, hnodup, hfresh, hk⟩ := ih h
        have hfirst : first ∉ before := fun hmem => hfresh first hmem List.mem_cons_self
        refine ⟨first :: before, after, rfl, List.nodup_cons.2 ⟨hfirst, hnodup⟩, ?_, ?_⟩
        · exact List.forall_mem_cons.2
            ⟨hseen, fun x hx => (hfresh x hx).imp (List.mem_cons_of_mem first)⟩
        · rcases hk with hk | hk
          · exact (List.mem_cons.1 hk).elim (fun heq => .inr (heq ▸ List.mem_cons_self)) .inl
          · exact .inr (List.mem_cons_of_mem first hk)

theorem exists_ofPairs?_eq_ok_iff {pairs : List (κ × ν)} :
    (∃ m, ofPairs? pairs = .ok m) ↔ (pairs.map Prod.fst).Nodup := by
  constructor
  · rintro ⟨m, h⟩
    rw [← entries_of_ofPairs? h]
    exact m.distinct
  · exact fun h => ⟨⟨pairs, h⟩, ofPairs?_entries ⟨pairs, h⟩⟩

/-- A list of pairs is refused for the earliest key that repeats an earlier one. -/
theorem split_of_ofPairs?_eq_error {pairs : List (κ × ν)} {k : κ}
    (h : ofPairs? pairs = .error k) :
    ∃ before after, pairs.map Prod.fst = before ++ k :: after ∧ before.Nodup ∧ k ∈ before := by
  unfold ofPairs? at h
  split at h
  · cases h
  · next hk =>
    cases h
    obtain ⟨before, after, hkeys, hnodup, -, hmem⟩ := split_of_firstRepeated? hk
    exact ⟨before, after, hkeys, hnodup, hmem.resolve_left List.not_mem_nil⟩

end ParserTables.OrderedMap
