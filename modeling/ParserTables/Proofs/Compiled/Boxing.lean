import ParserTables.Compiled.Type
import ParserTables.Proofs.Failure

/-!
# Types that can be boxed

Every type has a translation that is not boxed. A boxed translation exists unless a box would
stand around the unit type. This is a property of the grammar type alone: the path in front of
the names of declared types has no part in it.
-/

namespace ParserTables

open ParserTables.Grammar

/-- A box for a value of this type would stand around the unit type. The box goes inside an
optional value, there is one for each argument of a declared type, and none inside a sequence. -/
inductive Grammar.ValueType.ExposesUnit : ValueType → Prop
  | unit : ExposesUnit .unit
  | option {inner : ValueType} : ExposesUnit inner → ExposesUnit (.option inner)
  | named {name : String} {args : List ValueType} {arg : ValueType} : arg ∈ args →
      ExposesUnit arg → ExposesUnit (.named name args)

namespace Grammar.ValueType

theorem not_exposesUnit_token : ¬ ExposesUnit .token := nofun

theorem not_exposesUnit_sequence {inner : ValueType} : ¬ ExposesUnit (.sequence inner) := nofun

theorem exposesUnit_option_iff {inner : ValueType} :
    ExposesUnit (.option inner) ↔ ExposesUnit inner := by
  constructor
  · intro h
    cases h with
    | option h => exact h
  · exact .option

theorem exposesUnit_named_iff {name : String} {args : List ValueType} :
    ExposesUnit (.named name args) ↔ ∃ arg ∈ args, ExposesUnit arg := by
  constructor
  · intro h
    cases h with
    | named hmem h => exact ⟨_, hmem, h⟩
  · rintro ⟨arg, hmem, h⟩
    exact .named hmem h

end Grammar.ValueType

namespace Compiled

variable {space : String} {f : Fault}

theorem targetTypes_eq_mapM (boxed : Bool) (ts : List ValueType) :
    targetTypes space boxed ts = ts.mapM (targetType space boxed) := by
  induction ts with
  | nil => rw [targetTypes, List.mapM_nil]; rfl
  | cons t ts ih => rw [targetTypes, ih, List.mapM_cons]

mutual

theorem targetType_unboxed_ne_error : ∀ t : ValueType, targetType space false t ≠ .error f
  | .unit => by simp [targetType]
  | .token => by simp [targetType]
  | .option inner => by
      rw [targetType, ne_eq, map_eq_error]
      exact targetType_unboxed_ne_error inner
  | .sequence inner => by
      rw [targetType, ne_eq, map_eq_error]
      exact targetType_unboxed_ne_error inner
  | .named name args => by
      rw [targetType, ne_eq, map_eq_error]
      exact targetTypes_unboxed_ne_error args

theorem targetTypes_unboxed_ne_error : ∀ ts : List ValueType,
    targetTypes space false ts ≠ .error f
  | [] => by simp [targetTypes]
  | t :: ts => by
      rw [targetTypes_eq_mapM, ne_eq, mapM_cons_eq_error, ← targetTypes_eq_mapM]
      rintro (h | ⟨-, h⟩)
      · exact targetType_unboxed_ne_error t h
      · exact targetTypes_unboxed_ne_error ts h

end

mutual

theorem targetType_boxed_eq_error_iff : ∀ {t : ValueType} {f : Fault},
    targetType space true t = .error f ↔ t.ExposesUnit ∧ f = .boxedUnit ValueType.unit.spelling
  | .unit, f => by simp [targetType, ValueType.ExposesUnit.unit, eq_comm]
  | .token, f => by simp [targetType, ValueType.not_exposesUnit_token]
  | .option inner, f => by
      rw [targetType, map_eq_error, targetType_boxed_eq_error_iff,
        ValueType.exposesUnit_option_iff]
  | .sequence inner, f => by
      rw [targetType, map_eq_error]
      exact iff_of_false (targetType_unboxed_ne_error inner)
        (mt And.left ValueType.not_exposesUnit_sequence)
  | .named name args, f => by
      rw [targetType, map_eq_error, targetTypes_boxed_eq_error_iff,
        ValueType.exposesUnit_named_iff]

theorem targetTypes_boxed_eq_error_iff : ∀ {ts : List ValueType} {f : Fault},
    targetTypes space true ts = .error f ↔
      (∃ t ∈ ts, t.ExposesUnit) ∧ f = .boxedUnit ValueType.unit.spelling
  | [], f => by simp [targetTypes]
  | t :: ts, f => by
      have hok : (∃ s, targetType space true t = .ok s) ↔ ¬ t.ExposesUnit :=
        exists_ok_iff_not fun _ => targetType_boxed_eq_error_iff
      rw [targetTypes_eq_mapM, mapM_cons_eq_error, hok, ← targetTypes_eq_mapM,
        targetType_boxed_eq_error_iff, targetTypes_boxed_eq_error_iff]
      simp only [List.mem_cons, exists_eq_or_imp]
      tauto

end

theorem spellType_boxed_eq_error_iff {t : ValueType} :
    spellType space true t = .error f ↔
      t.ExposesUnit ∧ f = .boxedUnit ValueType.unit.spelling := by
  rw [spellType, map_eq_error, targetType_boxed_eq_error_iff]

/-- The boxed translation of a type exists unless it exposes the unit type. -/
theorem exists_spellType_boxed_iff {t : ValueType} :
    (∃ s, spellType space true t = .ok s) ↔ ¬ t.ExposesUnit :=
  exists_ok_iff_not fun _ => spellType_boxed_eq_error_iff

end Compiled

end ParserTables
