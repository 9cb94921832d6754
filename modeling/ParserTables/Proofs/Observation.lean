import ParserTables.Proofs.Failure

/-!
# What is observed of a step

An observer may not tell all results apart, nor all errors. Two steps are observed alike if both
fail with errors, or both succeed with results that the observer does not tell apart; whatever
goes on from there only has to be observed alike for such results.
-/

namespace ParserTables

variable {ε ε' α α' β β' γ κ : Type}

/-- A step as it is observed, an error through `u` and a result through `r`. -/
def observed (u : ε → ε') (r : α → β) (x : Except ε α) : Except ε' β := (x.map r).mapError u

variable {u : ε → ε'} {r : α → β}

@[simp] theorem observed_error (e : ε) : observed u r (.error e) = .error (u e) := rfl

@[simp] theorem observed_ok (a : α) : observed u r (.ok a) = .ok (r a) := rfl

theorem observed_eq_ok_iff {x : Except ε α} {b : β} :
    observed u r x = .ok b ↔ ∃ a, x = .ok a ∧ r a = b := by
  cases x with
  | error e => simp
  | ok a => simp

theorem observed_eq_error_iff {x : Except ε α} {e : ε'} :
    observed u r x = .error e ↔ ∃ e', x = .error e' ∧ u e' = e := by
  cases x with
  | error e => simp
  | ok a => simp

/-- Of two steps that are observed alike, one succeeds if the other does. -/
theorem exists_ok_congr {x y : Except ε α} (h : observed u r x = observed u r y) :
    (∃ a, x = .ok a) ↔ ∃ b, y = .ok b := by
  constructor
  · rintro ⟨a, rfl⟩
    obtain ⟨b, hb, -⟩ := observed_eq_ok_iff.1 h.symm
    exact ⟨b, hb⟩
  · rintro ⟨b, rfl⟩
    obtain ⟨a, ha, -⟩ := observed_eq_ok_iff.1 h
    exact ⟨a, ha⟩

theorem observed_bind_congr {s : γ → κ} {x y : Except ε α} {f g : α → Except ε γ}
    (h : observed u r x = observed u r y)
    (hfg : ∀ a b, r a = r b → observed u s (f a) = observed u s (g b)) :
    observed u s (x >>= f) = observed u s (y >>= g) := by
  cases x with
  | error e =>
      obtain ⟨e', rfl, he⟩ := observed_eq_error_iff.1 h.symm
      exact congrArg Except.error he.symm
  | ok a =>
      obtain ⟨b, rfl, hb⟩ := observed_eq_ok_iff.1 h.symm
      exact hfg a b hb.symm

theorem observed_map_congr {s : γ → κ} {x y : Except ε α} {f g : α → γ}
    (h : observed u r x = observed u r y) (hfg : ∀ a b, r a = r b → s (f a) = s (g b)) :
    observed u s (x.map f) = observed u s (y.map g) := by
  cases x with
  | error e =>
      obtain ⟨e', rfl, he⟩ := observed_eq_error_iff.1 h.symm
      exact congrArg Except.error he.symm
  | ok a =>
      obtain ⟨b, rfl, hb⟩ := observed_eq_ok_iff.1 h.symm
      exact congrArg Except.ok (hfg a b hb.symm)

/-- Lists of steps are observed alike if the steps are, one by one. -/
theorem observed_mapM_congr {f g : γ → Except ε α} (h : ∀ c, observed u r (f c) = observed u r (g c))
    (cs : List γ) : observed u (List.map r) (cs.mapM f) = observed u (List.map r) (cs.mapM g) := by
  induction cs with
  | nil => rfl
  | cons c cs ih =>
      rw [List.mapM_cons, List.mapM_cons]
      refine observed_bind_congr (h c) fun a b hab => ?_
      refine observed_bind_congr ih fun as bs habs => ?_
      exact congrArg Except.ok (by rw [List.map_cons, List.map_cons, hab, habs])

end ParserTables
