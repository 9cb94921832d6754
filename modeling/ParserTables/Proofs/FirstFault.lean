import ParserTables.Proofs.Failure

/-!
# The first fault in a list

Where steps are made one after another, the fault that is reported is the one of the first step
that fails.
-/

namespace ParserTables

variable {ε α β : Type}

/-- The first element of a list that does not pass has this fault. -/
inductive FirstFault (passes : α → Prop) (fault : α → ε → Prop) : List α → ε → Prop
  | here {a : α} {as : List α} {e : ε} : fault a e → FirstFault passes fault (a :: as) e
  | later {a : α} {as : List α} {e : ε} : passes a → FirstFault passes fault as e →
      FirstFault passes fault (a :: as) e

variable {passes : α → Prop} {fault : α → ε → Prop} {e : ε}

theorem firstFault_nil_iff : FirstFault passes fault [] e ↔ False :=
  iff_false_intro nofun

theorem firstFault_cons_iff {a : α} {as : List α} :
    FirstFault passes fault (a :: as) e ↔
      fault a e ∨ passes a ∧ FirstFault passes fault as e := by
  constructor
  · intro h
    cases h with
    | here h => exact .inl h
    | later hp h => exact .inr ⟨hp, h⟩
  · rintro (h | ⟨hp, h⟩)
    · exact .here h
    · exact .later hp h

theorem firstFault_map_iff {f : β → α} {bs : List β} :
    FirstFault passes fault (bs.map f) e ↔
      FirstFault (fun b => passes (f b)) (fun b => fault (f b)) bs e := by
  induction bs with
  | nil => simp only [List.map_nil, firstFault_nil_iff]
  | cons b bs ih => rw [List.map_cons, firstFault_cons_iff, firstFault_cons_iff, ih]

/-- Elements that are left out pass. -/
theorem firstFault_filter_iff {q : α → Bool} {as : List α} :
    FirstFault passes fault (as.filter q) e ↔
      FirstFault (fun a => q a = true → passes a) (fun a e => q a = true ∧ fault a e) as e := by
  induction as with
  | nil => simp only [List.filter_nil, firstFault_nil_iff]
  | cons a as ih =>
      rw [List.filter_cons, firstFault_cons_iff, ← ih]
      split
      · next hq => simp [firstFault_cons_iff, hq]
      · next hq => simp [hq]

/-- The first fault is the one of an element with only elements that pass before it. -/
theorem firstFault_iff_getElem? {as : List α} :
    FirstFault passes fault as e ↔ ∃ (i : Nat) (a : α), as[i]? = some a ∧ fault a e ∧
      ∀ j < i, ∀ b, as[j]? = some b → passes b := by
  induction as with
  | nil => simp [firstFault_nil_iff]
  | cons a as ih =>
      rw [firstFault_cons_iff, ih]
      constructor
      · rintro (h | ⟨ha, i, b, hb, hfault, hbefore⟩)
        · exact ⟨0, a, rfl, h, fun j hj => absurd hj (Nat.not_lt_zero j)⟩
        · refine ⟨i + 1, b, hb, hfault, fun j hj c hc => ?_⟩
          cases j with
          | zero => exact Option.some.inj hc ▸ ha
          | succ j => exact hbefore j (Nat.lt_of_succ_lt_succ hj) c hc
      · rintro ⟨i, b, hb, hfault, hbefore⟩
        cases i with
        | zero => exact .inl (Option.some.inj hb ▸ hfault)
        | succ i =>
            exact .inr ⟨hbefore 0 (Nat.succ_pos i) a rfl, i, b, hb, hfault,
              fun j hj => hbefore (j + 1) (Nat.succ_lt_succ hj)⟩

/-- From the end of a list, the first fault is the one of the last element that has one. -/
theorem firstFault_reverse_iff {as : List α} :
    FirstFault passes fault as.reverse e ↔ ∃ (i : Nat) (a : α), as[i]? = some a ∧ fault a e ∧
      ∀ j > i, ∀ b, as[j]? = some b → passes b := by
  have hlength : ∀ {i : Nat} {a : α}, as[i]? = some a → i < as.length := fun h =>
    (List.getElem?_eq_some_iff.1 h).1
  rw [firstFault_iff_getElem?]
  constructor
  · rintro ⟨i, a, ha, hfault, hbefore⟩
    have hi : i < as.length := by simpa using (List.getElem?_eq_some_iff.1 ha).1
    rw [List.getElem?_reverse hi] at ha
    refine ⟨as.length - 1 - i, a, ha, hfault, fun j hj b hb => ?_⟩
    have hjl := hlength hb
    refine hbefore (as.length - 1 - j) (by omega) b ?_
    rw [List.getElem?_reverse (by omega), ← hb]
    congr 1
    omega
  · rintro ⟨i, a, ha, hfault, hafter⟩
    have hi := hlength ha
    refine ⟨as.length - 1 - i, a, ?_, hfault, fun j hj b hb => ?_⟩
    · rw [List.getElem?_reverse (by omega), ← ha]
      congr 1
      omega
    · rw [List.getElem?_reverse (by omega)] at hb
      exact hafter (as.length - 1 - j) (by omega) b hb

/-- A list of steps fails as the first step that fails. -/
theorem mapM_eq_error_iff {f : α → Except ε β} (hpasses : ∀ a, (∃ b, f a = .ok b) ↔ passes a)
    (hfault : ∀ a e, f a = .error e ↔ fault a e) {as : List α} :
    as.mapM f = .error e ↔ FirstFault passes fault as e := by
  induction as with
  | nil => simp [firstFault_nil_iff, pure, Except.pure]
  | cons a as ih => rw [mapM_cons_eq_error, firstFault_cons_iff, hpasses, hfault, ih]

end ParserTables
