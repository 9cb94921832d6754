import ParserTables.Naming.Symbol

/-!
# Upper case after the snake form

The constant of an entry state is the snake form of its goal in upper case. A snake form that is
its own lower case again after it was in upper case can be told from its constant. The snake form
of an ASCII name always can: it has no capital letters, and each of its small letters has a capital
letter of its own. Beyond ASCII upper case expands letters and merges them.
-/

namespace ParserTables.Text

/-- What holds of the first 128 code points holds of every ASCII character. -/
theorem of_isAscii {P : Char → Prop} (hP : ∀ n < 128, P (Char.ofNat n)) {c : Char}
    (h : isAscii c = true) : P c := by
  have hc := hP c.toNat (of_decide_eq_true h)
  rwa [Char.ofNat_toNat] at hc

theorem isAscii_toLower {c : Char} (h : isAscii c = true) : isAscii c.toLower = true :=
  of_isAscii (P := fun c => isAscii c.toLower = true) (by decide +kernel) h

theorem isAscii_toUpper {c : Char} (h : isAscii c = true) : isAscii c.toUpper = true :=
  of_isAscii (P := fun c => isAscii c.toUpper = true) (by decide +kernel) h

theorem toLower_toUpper_toLower {c : Char} (h : isAscii c = true) :
    c.toLower.toUpper.toLower = c.toLower :=
  of_isAscii (P := fun c => c.toLower.toUpper.toLower = c.toLower) (by decide +kernel) h

theorem lowerAfter_of_ascii {cs : List Char} (h : ∀ c ∈ cs, isAscii c = true)
    (before : List Char) : lowerAfter before cs = cs.map Char.toLower := by
  induction cs generalizing before with
  | nil => rfl
  | cons c rest ih =>
      rw [List.forall_mem_cons] at h
      have hc : c ≠ capitalSigma := by
        rintro rfl
        exact absurd h.1 (by decide)
      rw [lowerAfter_cons, if_neg hc, lowerChar_of_ascii h.1, ih h.2]
      rfl

theorem lower_of_ascii {cs : List Char} (h : ∀ c ∈ cs, isAscii c = true) :
    lower cs = cs.map Char.toLower := lowerAfter_of_ascii h []

theorem upper_of_ascii {cs : List Char} (h : ∀ c ∈ cs, isAscii c = true) :
    upper cs = cs.map Char.toUpper := by
  rw [upper, List.map_eq_flatMap, List.flatMap_def, List.flatMap_def]
  exact congrArg List.flatten (List.map_congr_left fun c hc => upperChar_of_ascii (h c hc))

/-- A lower case that is put in upper case and back is itself again. -/
theorem lower_upper_lower_of_ascii {cs : List Char} (h : ∀ c ∈ cs, isAscii c = true) :
    lower (upper (lower cs)) = lower cs := by
  have hlower : ∀ c ∈ cs.map Char.toLower, isAscii c = true :=
    List.forall_mem_map.2 fun c hc => isAscii_toLower (h c hc)
  have hupper : ∀ c ∈ (cs.map Char.toLower).map Char.toUpper, isAscii c = true :=
    List.forall_mem_map.2 fun c hc => isAscii_toUpper (hlower c hc)
  rw [lower_of_ascii h, upper_of_ascii hlower, lower_of_ascii hupper, List.map_map, List.map_map]
  exact List.map_congr_left fun c hc => toLower_toUpper_toLower (h c hc)

end ParserTables.Text

namespace ParserTables.Naming

open ParserTables.Text

/-- Word boundaries only add underscores. -/
theorem eq_underscore_or_mem_of_mem_wordBreaks {x : Char} (inWord : Bool) (name : List Char)
    (h : x ∈ wordBreaks inWord name) : x = '_' ∨ x ∈ name := by
  induction inWord, name using wordBreaks.induct with
  | case1 inWord a b c rest hword ih =>
      rw [wordBreaks, if_pos hword, List.mem_cons] at h
      rw [List.mem_cons]
      grind
  | case2 inWord a b c rest hword hbreak ih =>
      rw [wordBreaks, if_neg hword, if_pos hbreak, List.mem_cons, List.mem_cons, List.mem_cons] at h
      rw [List.mem_cons, List.mem_cons]
      grind
  | case3 inWord a b c rest hword hbreak ih =>
      rw [wordBreaks, if_neg hword, if_neg hbreak, List.mem_cons] at h
      rw [List.mem_cons]
      grind
  | case4 inWord short hshort =>
      rw [wordBreaks.eq_2 _ _ hshort] at h
      exact .inr h

theorem eq_underscore_or_mem_of_mem_caseBreaks {x : Char} (name : List Char)
    (h : x ∈ caseBreaks name) : x = '_' ∨ x ∈ name := by
  induction name using caseBreaks.induct with
  | case1 a b rest hbreak ih =>
      rw [caseBreaks, if_pos hbreak, List.mem_cons, List.mem_cons, List.mem_cons] at h
      rw [List.mem_cons, List.mem_cons]
      grind
  | case2 a b rest hbreak ih =>
      rw [caseBreaks, if_neg hbreak, List.mem_cons] at h
      rw [List.mem_cons]
      grind
  | case3 short hshort =>
      rw [caseBreaks.eq_2 _ hshort] at h
      exact .inr h

/-- The snake form of an ASCII name is the lower case of its constant. -/
theorem lower_upper_snakeChars {name : List Char} (h : ∀ c ∈ name, isAscii c = true) :
    lower (upper (snakeChars name)) = snakeChars name := by
  refine lower_upper_lower_of_ascii fun x hx => ?_
  rcases eq_underscore_or_mem_of_mem_caseBreaks _ hx with rfl | hx
  · rfl
  rcases eq_underscore_or_mem_of_mem_wordBreaks _ _ hx with rfl | hx
  · rfl
  · exact h x hx

end ParserTables.Naming
