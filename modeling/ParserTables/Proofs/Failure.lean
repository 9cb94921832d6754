import Mathlib.Tactic.Common

/-!
# Steps that can fail

When a composition of steps succeeds. A list of steps succeeds with a list of results exactly if
each step succeeds with the result in its place.
-/

namespace ParserTables

variable {ε ε' α β γ : Type}

theorem bind_eq_ok {x : Except ε α} {f : α → Except ε β} {b : β} :
    x >>= f = .ok b ↔ ∃ a, x = .ok a ∧ f a = .ok b := by
  cases x with
  | error e => simp [bind, Except.bind]
  | ok a => simp [bind, Except.bind]

theorem bind_eq_error {x : Except ε α} {f : α → Except ε β} {e : ε} :
    x >>= f = .error e ↔ x = .error e ∨ ∃ a, x = .ok a ∧ f a = .error e := by
  cases x with
  | error e => simp [bind, Except.bind]
  | ok a => simp [bind, Except.bind]

/-- One step after another, when the first has no result to hand on. -/
theorem seq_eq_ok {x : Except ε Unit} {y : Except ε β} {b : β} :
    (x >>= fun _ => y) = .ok b ↔ x = .ok () ∧ y = .ok b :=
  bind_eq_ok.trans ⟨fun ⟨⟨⟩, h⟩ => h, fun h => ⟨(), h⟩⟩

theorem seq_eq_error {x : Except ε Unit} {y : Except ε β} {e : ε} :
    (x >>= fun _ => y) = .error e ↔ x = .error e ∨ x = .ok () ∧ y = .error e :=
  bind_eq_error.trans (or_congr_right ⟨fun ⟨⟨⟩, h⟩ => h, fun h => ⟨(), h⟩⟩)

theorem pure_eq_ok {a b : α} : (pure a : Except ε α) = .ok b ↔ a = b := by
  simp [pure, Except.pure]

theorem map_eq_ok {x : Except ε α} {f : α → β} {b : β} :
    x.map f = .ok b ↔ ∃ a, x = .ok a ∧ f a = b := by
  cases x with
  | error e => simp [Except.map]
  | ok a => simp [Except.map]

theorem mapError_eq_ok {x : Except ε α} {f : ε → ε'} {a : α} :
    x.mapError f = .ok a ↔ x = .ok a := by
  cases x with
  | error e => simp [Except.mapError]
  | ok a => simp [Except.mapError]

theorem exists_eq_ok_of_isOk {x : Except ε α} (h : x.isOk = true) : ∃ a, x = .ok a := by
  cases x with
  | error e => cases h
  | ok a => exact ⟨a, rfl⟩

theorem mapM_nil_eq_ok {f : α → Except ε β} {bs : List β} :
    [].mapM f = .ok bs ↔ bs = [] := by
  rw [List.mapM_nil, pure_eq_ok, eq_comm]

theorem mapM_cons_eq_ok {f : α → Except ε β} {a : α} {as : List α} {bs : List β} :
    (a :: as).mapM f = .ok bs ↔ ∃ b bs', f a = .ok b ∧ as.mapM f = .ok bs' ∧ bs = b :: bs' := by
  rw [List.mapM_cons, bind_eq_ok]
  constructor
  · rintro ⟨b, hb, h⟩
    obtain ⟨bs', hbs, h⟩ := bind_eq_ok.1 h
    exact ⟨b, bs', hb, hbs, (pure_eq_ok.1 h).symm⟩
  · rintro ⟨b, bs', hb, hbs, rfl⟩
    exact ⟨b, hb, bind_eq_ok.2 ⟨bs', hbs, rfl⟩⟩

theorem forM_eq_ok_iff {f : α → Except ε Unit} {as : List α} :
    as.forM f = .ok () ↔ ∀ a ∈ as, f a = .ok () := by
  induction as with
  | nil => simp [pure, Except.pure]
  | cons a as ih =>
      rw [List.forM_eq_forM] at ih ⊢
      rw [List.forM_cons, seq_eq_ok, ih, List.forall_mem_cons]

/-- A list of steps fails as the first step that fails. -/
theorem forM_eq_error_iff {f : α → Except ε Unit} {as : List α} {e : ε} :
    as.forM f = .error e ↔ ∃ before a after, as = before ++ a :: after ∧
      (∀ b ∈ before, f b = .ok ()) ∧ f a = .error e := by
  induction as with
  | nil => simp [pure, Except.pure]
  | cons a as ih =>
      rw [List.forM_eq_forM] at ih ⊢
      rw [List.forM_cons, seq_eq_error, ih]
      constructor
      · rintro (h | ⟨ha, before, b, after, rfl, hbefore, hb⟩)
        · exact ⟨[], a, as, rfl, by simp, h⟩
        · exact ⟨a :: before, b, after, rfl, by simpa [ha] using hbefore, hb⟩
      · rintro ⟨before, b, after, heq, hbefore, hb⟩
        cases before with
        | nil =>
            obtain ⟨rfl, -⟩ := List.cons.inj heq
            exact .inl hb
        | cons c before =>
            obtain ⟨rfl, rfl⟩ := List.cons.inj heq
            rw [List.forall_mem_cons] at hbefore
            exact .inr ⟨hbefore.1, before, b, after, rfl, hbefore.2, hb⟩

theorem length_of_mapM {f : α → Except ε β} {as : List α} {bs : List β}
    (h : as.mapM f = .ok bs) : bs.length = as.length := by
  induction as generalizing bs with
  | nil =>
      obtain rfl := mapM_nil_eq_ok.1 h
      rfl
  | cons a as ih =>
      obtain ⟨b, bs', -, hbs, rfl⟩ := mapM_cons_eq_ok.1 h
      rw [List.length_cons, List.length_cons, ih hbs]

/-- What every step carries over from what it is made for stands in the results in the same
order. -/
theorem map_of_mapM {f : α → Except ε β} {k : β → γ} {k' : α → γ}
    (hf : ∀ a b, f a = .ok b → k b = k' a) {as : List α} {bs : List β}
    (h : as.mapM f = .ok bs) : bs.map k = as.map k' := by
  induction as generalizing bs with
  | nil =>
      obtain rfl := mapM_nil_eq_ok.1 h
      rfl
  | cons a as ih =>
      obtain ⟨b, bs', hb, hbs, rfl⟩ := mapM_cons_eq_ok.1 h
      rw [List.map_cons, List.map_cons, hf a b hb, ih hbs]

/-- Every result is the result of the step in its place. -/
theorem getElem?_of_mapM {f : α → Except ε β} {as : List α} {bs : List β}
    (h : as.mapM f = .ok bs) {i : Nat} {b : β} (hb : bs[i]? = some b) :
    ∃ a, as[i]? = some a ∧ f a = .ok b := by
  induction as generalizing bs i with
  | nil =>
      obtain rfl := mapM_nil_eq_ok.1 h
      cases hb
  | cons a as ih =>
      obtain ⟨b', bs', hb', hbs, rfl⟩ := mapM_cons_eq_ok.1 h
      cases i with
      | zero =>
          obtain rfl : b' = b := Option.some.inj hb
          exact ⟨a, rfl, hb'⟩
      | succ i => exact ih hbs hb

/-- Every step has its result in its place. -/
theorem getElem?_of_mapM' {f : α → Except ε β} {as : List α} {bs : List β}
    (h : as.mapM f = .ok bs) {i : Nat} {a : α} (ha : as[i]? = some a) :
    ∃ b, bs[i]? = some b ∧ f a = .ok b := by
  have hi : i < bs.length := length_of_mapM h ▸ (List.getElem?_eq_some_iff.1 ha).1
  have hb : bs[i]? = some bs[i] := List.getElem?_eq_getElem hi
  obtain ⟨a', ha', hf⟩ := getElem?_of_mapM h hb
  obtain rfl : a = a' := Option.some.inj (ha.symm.trans ha')
  exact ⟨bs[i], hb, hf⟩

theorem exists_of_mem_mapM {f : α → Except ε β} {as : List α} {bs : List β}
    (h : as.mapM f = .ok bs) {b : β} (hb : b ∈ bs) : ∃ a ∈ as, f a = .ok b := by
  obtain ⟨i, hi⟩ := List.mem_iff_getElem?.1 hb
  obtain ⟨a, ha, hf⟩ := getElem?_of_mapM h hi
  exact ⟨a, List.mem_of_getElem? ha, hf⟩

theorem map_eq_error {x : Except ε α} {f : α → β} {e : ε} :
    x.map f = .error e ↔ x = .error e := by
  cases x with
  | error e => simp [Except.map]
  | ok a => simp [Except.map]

theorem exists_ok_iff_forall_ne_error {x : Except ε α} :
    (∃ a, x = .ok a) ↔ ∀ e, x ≠ .error e := by
  cases x with
  | error e => simp
  | ok a => simp

/-- A step that fails in one way, under a condition, succeeds under the opposite one. -/
theorem exists_ok_iff_not {x : Except ε α} {p : Prop} {fault : ε}
    (h : ∀ e, x = .error e ↔ p ∧ e = fault) : (∃ a, x = .ok a) ↔ ¬ p := by
  rw [exists_ok_iff_forall_ne_error]
  constructor
  · intro hx hp
    exact hx fault ((h fault).2 ⟨hp, rfl⟩)
  · intro hp e he
    exact hp ((h e).1 he).1

theorem exists_bind_eq_ok_iff {x : Except ε α} {f : α → Except ε β} :
    (∃ b, x >>= f = .ok b) ↔ ∃ a, x = .ok a ∧ ∃ b, f a = .ok b := by
  simp only [bind_eq_ok]
  rw [exists_comm]
  simp only [exists_and_left]

/-- A last step that only puts the result into shape changes nothing. -/
theorem bind_pure_eq_error {x : Except ε α} {f : α → β} {e : ε} :
    (x >>= fun a => pure (f a)) = .error e ↔ x = .error e := by
  cases x with
  | error e => simp [bind, Except.bind]
  | ok a => simp [bind, Except.bind, pure, Except.pure]

theorem exists_bind_pure_eq_ok_iff {x : Except ε α} {f : α → β} :
    (∃ b, (x >>= fun a => pure (f a)) = .ok b) ↔ ∃ a, x = .ok a := by
  rw [exists_bind_eq_ok_iff]
  exact exists_congr fun a => and_iff_left ⟨f a, rfl⟩

theorem mapM_cons_eq_error {f : α → Except ε β} {a : α} {as : List α} {e : ε} :
    (a :: as).mapM f = .error e ↔
      f a = .error e ∨ (∃ b, f a = .ok b) ∧ as.mapM f = .error e := by
  rw [List.mapM_cons, bind_eq_error]
  refine or_congr_right ⟨?_, ?_⟩
  · rintro ⟨b, hb, h⟩
    obtain h | ⟨bs, -, h⟩ := bind_eq_error.1 h
    · exact ⟨⟨b, hb⟩, h⟩
    · cases h
  · rintro ⟨⟨b, hb⟩, h⟩
    exact ⟨b, hb, bind_eq_error.2 (.inl h)⟩

theorem exists_mapM_eq_ok_iff {f : α → Except ε β} {as : List α} :
    (∃ bs, as.mapM f = .ok bs) ↔ ∀ a ∈ as, ∃ b, f a = .ok b := by
  constructor
  · rintro ⟨bs, h⟩ a ha
    obtain ⟨i, hi⟩ := List.mem_iff_getElem?.1 ha
    obtain ⟨b, -, hb⟩ := getElem?_of_mapM' h hi
    exact ⟨b, hb⟩
  · intro h
    induction as with
    | nil => exact ⟨[], mapM_nil_eq_ok.2 rfl⟩
    | cons a as ih =>
        rw [List.forall_mem_cons] at h
        obtain ⟨b, hb⟩ := h.1
        obtain ⟨bs, hbs⟩ := ih h.2
        exact ⟨b :: bs, mapM_cons_eq_ok.2 ⟨b, bs, hb, hbs, rfl⟩⟩

end ParserTables
