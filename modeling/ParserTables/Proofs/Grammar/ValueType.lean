import ParserTables.Grammar.ValueType
import ParserTables.Proofs.Failure

/-!
# Types and how they are written

A written type that stands for a type is the one that is written for it: the classification loses
nothing.
-/

namespace ParserTables.Grammar.ValueType

/-- A name of a built-in kind is the one spelling of this kind. -/
theorem eq_of_kindOf (name : String) :
    (kindOf name = .unit → name = "()") ∧ (kindOf name = .token → name = "Token") ∧
      (kindOf name = .option → name = "Option") ∧ (kindOf name = .sequence → name = "Vec") := by
  unfold kindOf
  split_ifs with h₁ h₂ h₃ h₄ h₅
  · exact ⟨nofun, nofun, nofun, nofun⟩
  · exact ⟨fun _ => h₂, nofun, nofun, nofun⟩
  · exact ⟨nofun, fun _ => h₃, nofun, nofun⟩
  · exact ⟨nofun, nofun, fun _ => h₄, nofun⟩
  · exact ⟨nofun, nofun, nofun, fun _ => h₅⟩
  · exact ⟨nofun, nofun, nofun, nofun⟩

theorem ofWrittenList_cons_eq_ok {w : WrittenType} {ws : List WrittenType}
    {ts : List ValueType} :
    ofWrittenList (w :: ws) = .ok ts ↔
      ∃ t ts', ofWritten w = .ok t ∧ ofWrittenList ws = .ok ts' ∧ ts = t :: ts' := by
  rw [ofWrittenList, bind_eq_ok]
  constructor
  · rintro ⟨t, ht, h⟩
    obtain ⟨ts', hts, h⟩ := bind_eq_ok.1 h
    exact ⟨t, ts', ht, hts, (pure_eq_ok.1 h).symm⟩
  · rintro ⟨t, ts', ht, hts, rfl⟩
    exact ⟨t, ht, bind_eq_ok.2 ⟨ts', hts, rfl⟩⟩

/-- The written types that stand for a type: the built-in ones with their arguments, and every
other name. -/
theorem ofWritten_mk_eq_ok {name : String} {args : List WrittenType} {t : ValueType}
    (h : ofWritten (.mk name args) = .ok t) :
    (name = "()" ∧ args = [] ∧ t = .unit) ∨ (name = "Token" ∧ args = [] ∧ t = .token) ∨
      (∃ arg inner, name = "Option" ∧ args = [arg] ∧ ofWritten arg = .ok inner ∧
        t = .option inner) ∨
      (∃ arg inner, name = "Vec" ∧ args = [arg] ∧ ofWritten arg = .ok inner ∧
        t = .sequence inner) ∨
      (kindOf name = .declared ∧ ∃ ts, ofWrittenList args = .ok ts ∧ t = .named name ts) := by
  obtain ⟨hunit, htoken, hoption, hsequence⟩ := eq_of_kindOf name
  unfold ofWritten at h
  split at h
  · cases h
  · next hkind =>
    split at h
    · next hempty =>
      cases h
      exact .inl ⟨hunit hkind, List.isEmpty_iff.1 hempty, rfl⟩
    · cases h
  · next hkind =>
    split at h
    · next hempty =>
      cases h
      exact .inr (.inl ⟨htoken hkind, List.isEmpty_iff.1 hempty, rfl⟩)
    · cases h
  · next hkind =>
    split at h
    · next arg =>
      obtain ⟨inner, hinner, rfl⟩ := map_eq_ok.1 h
      exact .inr (.inr (.inl ⟨arg, inner, hoption hkind, rfl, hinner, rfl⟩))
    · cases h
  · next hkind =>
    split at h
    · next arg =>
      obtain ⟨inner, hinner, rfl⟩ := map_eq_ok.1 h
      exact .inr (.inr (.inr (.inl ⟨arg, inner, hsequence hkind, rfl, hinner, rfl⟩)))
    · cases h
  · next hkind =>
    obtain ⟨ts, hts, rfl⟩ := map_eq_ok.1 h
    exact .inr (.inr (.inr (.inr ⟨hkind, ts, hts, rfl⟩)))

theorem ofWrittenList_singleton {w : WrittenType} {t : ValueType} (h : ofWritten w = .ok t) :
    ofWrittenList [w] = .ok [t] :=
  ofWrittenList_cons_eq_ok.2 ⟨t, [], h, rfl, rfl⟩

mutual

/-- A type is written as it was given. -/
theorem toWritten_of_ofWritten :
    (w : WrittenType) → (t : ValueType) → ofWritten w = .ok t → t.toWritten = w
  | .mk name args, t, h => by
      have hargs := toWrittenList_of_ofWrittenList args
      rcases ofWritten_mk_eq_ok h with ⟨rfl, rfl, rfl⟩ | ⟨rfl, rfl, rfl⟩ |
        ⟨arg, inner, rfl, rfl, harg, rfl⟩ | ⟨arg, inner, rfl, rfl, harg, rfl⟩ | ⟨-, ts, hts, rfl⟩
      · rfl
      · rfl
      · rw [toWritten, ← hargs [inner] (ofWrittenList_singleton harg)]
        rfl
      · rw [toWritten, ← hargs [inner] (ofWrittenList_singleton harg)]
        rfl
      · rw [toWritten, hargs ts hts]

/-- Several types are written as they were given. -/
theorem toWrittenList_of_ofWrittenList :
    (ws : List WrittenType) → (ts : List ValueType) → ofWrittenList ws = .ok ts →
      toWrittenList ts = ws
  | [], ts, h => by
      cases h
      rfl
  | w :: ws, ts, h => by
      obtain ⟨t, ts', ht, hts, rfl⟩ := ofWrittenList_cons_eq_ok.1 h
      rw [toWrittenList, toWritten_of_ofWritten w t ht, toWrittenList_of_ofWrittenList ws ts' hts]

end

end ParserTables.Grammar.ValueType
