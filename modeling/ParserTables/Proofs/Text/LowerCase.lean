import Mathlib
import ParserTables.Proofs.Naming.Words

/-!
# Lower case is settled after one step

A case mapping is stored as runs of code points that are moved together, and as single code points
that are expanded. What it gives is not mapped again if nothing is moved or expanded into the domain
of the mapping. For the runs this is a question about pairs of them: two runs are apart if one ends
before the other begins, or if one steps over the members of the other. The tables of the lowercase
mapping are compared run by run, and no character is looked at by itself.

In a text a capital sigma depends on its neighbours. Both small sigmas are their own lowercase form,
so that there is nothing left for the context to decide in a text that is in lower case
(`lower_eq_self_iff`).
-/

namespace ParserTables.Text

/-! ### Runs that are apart -/

/-- The runs have no common member, because one ends before the other begins or because all members
of the first have one rest with respect to the steps of the second, and it is not the right one. -/
def Run.apart (r s : Run) : Bool :=
  r.last.blt s.first || s.last.blt r.first ||
    (r.step == s.step || r.first == r.last) && r.first % s.step != s.first % s.step

theorem Run.modEq_of_contains {r : Run} {n : Nat} (h : r.contains n = true) :
    r.first ≡ n [MOD r.step] := by
  obtain ⟨hfirst, -, hmod⟩ := (r.contains_iff n).1 h
  exact (Nat.modEq_iff_dvd' hfirst).2 (Nat.dvd_of_mod_eq_zero hmod)

theorem Run.not_contains_of_apart {r s : Run} (h : r.apart s = true) {n : Nat}
    (hn : r.contains n = true) : ¬ s.contains n = true := by
  intro hn'
  obtain ⟨hfirst, hlast, -⟩ := (r.contains_iff n).1 hn
  obtain ⟨hfirst', hlast', -⟩ := (s.contains_iff n).1 hn'
  simp only [apart, Bool.or_eq_true, Bool.and_eq_true, Nat.blt_eq, beq_iff_eq, bne_iff_ne] at h
  rcases h with (hlt | hlt) | ⟨hrest, hne⟩
  · omega
  · omega
  · refine hne (Nat.ModEq.trans ?_ (modEq_of_contains hn').symm)
    rcases hrest with hstep | hsingle
    · exact hstep ▸ modEq_of_contains hn
    · obtain rfl : r.first = n := by omega
      rfl

/-- Where the members of a run are moved to. -/
def Shift.images (s : Shift) : Run :=
  ⟨s.target, s.target + (s.run.last - s.run.first), s.run.step⟩

theorem Shift.images_contains {s : Shift} {n m : Nat} (h : s.image? n = some m) :
    s.images.contains m = true := by
  rw [image?] at h
  split at h
  · next hn =>
    cases h
    obtain ⟨-, hlast, hmod⟩ := (s.run.contains_iff n).1 hn
    refine (s.images.contains_iff _).2 ⟨Nat.le_add_right _ _, ?_, ?_⟩
    · exact Nat.add_le_add_left (Nat.sub_le_sub_right hlast _) _
    · rw [images, Nat.add_sub_cancel_left, hmod]
  · cases h

/-! ### Mappings that settle -/

/-- The code points that a case mapping has an entry for. -/
def mappedRuns (expansions : List (Nat × List Nat)) (shifts : List Shift) : List Run :=
  expansions.map (fun e => ⟨e.1, e.1, 1⟩) ++ shifts.map Shift.run

/-- No entry of a case mapping leads to a code point that has an entry itself. The null character,
which a number that is no code point would become, has none. -/
structure Settles (expansions : List (Nat × List Nat)) (shifts : List Shift) : Prop where
  null : ∀ r ∈ mappedRuns expansions shifts, ¬ r.contains 0 = true
  expanded : ∀ e ∈ expansions, ∀ n ∈ e.2, ∀ r ∈ mappedRuns expansions shifts, ¬ r.contains n = true
  shifted : ∀ s ∈ shifts, (mappedRuns expansions shifts).all s.images.apart = true

section Mapping

variable {expansions : List (Nat × List Nat)} {shifts : List Shift} {c d : Char}

/-- A character without an entry stays as it is. -/
theorem mapCase_of_forall_not_contains
    (h : ∀ r ∈ mappedRuns expansions shifts, ¬ r.contains c.toNat = true) :
    mapCase expansions shifts c = [c] := by
  have hexpansions : expansions.lookup c.toNat = none := by
    rw [List.lookup_eq_none_iff]
    intro e he
    have hrun := h ⟨e.1, e.1, 1⟩ (List.mem_append_left _ (List.mem_map_of_mem he))
    rw [bne_iff_ne]
    intro heq
    exact hrun ((Run.contains_iff _ _).2 ⟨heq.ge, heq.le, Nat.mod_one _⟩)
  have hshifts : shifts.findSome? (·.image? c.toNat) = none := by
    rw [List.findSome?_eq_none_iff]
    intro s hs
    rw [Shift.image?, if_neg (h s.run (List.mem_append_right _ (List.mem_map_of_mem hs)))]
  rw [mapCase, hexpansions, hshifts]

theorem mapCase_cons_of_not_contains {s : Shift} (h : ¬ s.run.contains c.toNat = true) :
    mapCase expansions (s :: shifts) c = mapCase expansions shifts c := by
  simp only [mapCase, List.findSome?_cons, Shift.image?, if_neg h]

theorem Settles.mapCase_ofNat (h : Settles expansions shifts) {n : Nat}
    (hn : ∀ r ∈ mappedRuns expansions shifts, ¬ r.contains n = true) :
    mapCase expansions shifts (Char.ofNat n) = [Char.ofNat n] := by
  refine mapCase_of_forall_not_contains ?_
  rw [Char.toNat_ofNat]
  split
  · exact hn
  · exact h.null

/-- What a character is mapped to is not mapped again. -/
theorem Settles.mapCase_of_mem (h : Settles expansions shifts)
    (hd : d ∈ mapCase expansions shifts c) : mapCase expansions shifts d = [d] := by
  -- The character is expanded, or it is moved by a run, or it stays and has no entry to begin with.
  rw [mapCase] at hd
  split at hd
  · next form hform =>
    obtain ⟨n, hn, rfl⟩ := List.mem_map.1 hd
    obtain ⟨before, after, heq, -⟩ := List.lookup_eq_some_iff.1 hform
    have hmem : (c.toNat, form) ∈ expansions := by simp [heq]
    exact h.mapCase_ofNat (h.expanded _ hmem n hn)
  · next hform =>
    split at hd
    · next n hn =>
      obtain ⟨s, hs, himage⟩ := List.exists_of_findSome?_eq_some hn
      rw [List.mem_singleton.1 hd]
      exact h.mapCase_ofNat fun r hr =>
        Run.not_contains_of_apart (List.all_eq_true.1 (h.shifted s hs) r hr)
          (Shift.images_contains himage)
    · next hshift =>
      rw [List.mem_singleton.1 hd, mapCase, hform, hshift]

end Mapping

/-! ### The lowercase mapping -/

/-- The capital letters of ASCII, which move to the small ones. -/
def asciiShift : Shift := ⟨⟨0x41, 0x5A, 1⟩, 0x61⟩

theorem asciiShift_contains_iff {c : Char} :
    asciiShift.run.contains c.toNat = true ↔ c.isUpper = true := by
  simp only [Run.contains_iff, asciiShift, Nat.mod_one, and_true, Char.isUpper, decide_eq_true_eq,
    ge_iff_le, UInt32.le_iff_toNat_le, UInt32.reduceToNat, Char.reduceVal, Char.toNat_val]

/-- The tables, and the capital letters of ASCII with them, settle. -/
theorem settles_lowercase : Settles lowercaseExpansions (asciiShift :: lowercaseShifts) where
  null := by decide +kernel
  expanded := by decide +kernel
  shifted := by decide +kernel

/-- ASCII is one more run of the lowercase mapping. -/
theorem lowerChar_eq_mapCase (c : Char) :
    lowerChar c = mapCase lowercaseExpansions (asciiShift :: lowercaseShifts) c := by
  by_cases hupper : c.isUpper = true
  · rw [lowerChar_of_ascii (isAscii_of_isUpper hupper)]
    exact of_isAscii (P := fun c => c.isUpper = true →
      [c.toLower] = mapCase lowercaseExpansions (asciiShift :: lowercaseShifts) c)
      (by decide +kernel) (isAscii_of_isUpper hupper) hupper
  rw [mapCase_cons_of_not_contains (mt asciiShift_contains_iff.1 hupper)]
  -- The tables have no entry for what is left of ASCII.
  by_cases hascii : isAscii c = true
  · have hbeyond : ∀ r ∈ mappedRuns lowercaseExpansions lowercaseShifts, 128 ≤ r.first := by
      decide +kernel
    rw [lowerChar_of_ascii hascii, Char.toLower_eq_of_not_isUpper hupper,
      mapCase_of_forall_not_contains]
    intro r hr hmem
    have hfirst := ((r.contains_iff _).1 hmem).1
    exact absurd ((hbeyond r hr).trans hfirst) (Nat.not_le.2 (of_decide_eq_true hascii))
  · rw [lowerChar, if_neg hascii]

theorem lowerChar_of_mem_lowerChar {c d : Char} (h : d ∈ lowerChar c) : lowerChar d = [d] := by
  rw [lowerChar_eq_mapCase] at h ⊢
  exact settles_lowercase.mapCase_of_mem h

theorem lowerChar_smallSigma (before after : List Char) :
    lowerChar (smallSigma before after) = [smallSigma before after] := by
  have hfinal : lowerChar (Char.ofNat 0x3C2) = [Char.ofNat 0x3C2] := by decide +kernel
  have hinner : lowerChar (Char.ofNat 0x3C3) = [Char.ofNat 0x3C3] := by decide +kernel
  rw [smallSigma]
  split
  · exact hfinal
  · exact hinner

/-! ### Texts in lower case -/

theorem lowerChar_of_mem_lowerAfter {cs : List Char} {d : Char} (before : List Char)
    (h : d ∈ lowerAfter before cs) : lowerChar d = [d] := by
  induction cs generalizing before with
  | nil => cases h
  | cons c rest ih =>
      rw [lowerAfter_cons, List.mem_append] at h
      rcases h with h | h
      · split at h
        · rw [List.mem_singleton.1 h, lowerChar_smallSigma]
        · exact lowerChar_of_mem_lowerChar h
      · exact ih (c :: before) h

/-- A text that lower case leaves alone character by character is in lower case, whatever stands
before it: a capital sigma, which the context decides about, is not among these characters. -/
theorem lowerAfter_eq_self {cs : List Char} (before : List Char)
    (h : ∀ c ∈ cs, lowerChar c = [c]) : lowerAfter before cs = cs := by
  induction cs generalizing before with
  | nil => rfl
  | cons c rest ih =>
      rw [List.forall_mem_cons] at h
      have hsigma : c ≠ capitalSigma := by
        rintro rfl
        exact absurd h.1 (by decide +kernel)
      rw [lowerAfter_cons, if_neg hsigma, h.1, ih (c :: before) h.2, List.singleton_append]

theorem lower_eq_self_iff {cs : List Char} : lower cs = cs ↔ ∀ c ∈ cs, lowerChar c = [c] :=
  ⟨fun h _ hc => lowerChar_of_mem_lowerAfter [] (h.symm ▸ hc), lowerAfter_eq_self []⟩

end ParserTables.Text
