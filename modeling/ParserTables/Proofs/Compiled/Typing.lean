import ParserTables.Proofs.FirstFault
import ParserTables.Proofs.Compiled.Boxing
import ParserTables.Proofs.Compiled.Execution

/-!
# Arms and entries that can be made

An arm casts the values that a computed reducer reads, and an entry casts the value of its goal,
so their types must be spelled. A type is only looked for where a cast needs it: a slot that is
not read needs no type, and a production whose value is one of its slots needs none at all.
-/

namespace ParserTables

open ParserTables.Grammar
open ParserTables.Reduction (Expr compile slotsRead bind_compileIn mem_slotsRead)

namespace Grammar

/-- The reducer of a production compiles. -/
def Production.Compiles (g : Declarations) (p : Production) : Prop := ∃ e, compile g p = .ok e

namespace Element

/-- A cast to the type of an element can be spelled: the type is known, and so is its boxed
translation. -/
def Typed (g : Declarations) (el : Element) : Prop :=
  ∃ t, Compiled.elementType g el = .ok t ∧ ¬ t.ExposesUnit

/-- Why a cast to the type of an element cannot be spelled. -/
inductive TypingFault (g : Declarations) (el : Element) : Fault → Prop
  | unknown {f : Fault} : Compiled.elementType g el = .error f → TypingFault g el f
  | unboxed {t : ValueType} : Compiled.elementType g el = .ok t → t.ExposesUnit →
      TypingFault g el (.boxedUnit ValueType.unit.spelling)

variable {g : Declarations}

/-- The type of a nonterminal is the declared one. -/
theorem typed_nonterminal_iff {nt : Nonterminal} :
    Typed g (.nonterminal nt) ↔ ∃ t, g.typeOf? nt = some t ∧ ¬ t.ExposesUnit := by
  unfold Typed Compiled.elementType
  cases g.typeOf? nt with
  | none => simp
  | some t => simp

theorem typingFault_nonterminal_iff {nt : Nonterminal} {f : Fault} :
    TypingFault g (.nonterminal nt) f ↔
      (g.typeOf? nt = none ∧ f = .missingType nt.pretty) ∨
        ∃ t, g.typeOf? nt = some t ∧ t.ExposesUnit ∧
          f = .boxedUnit ValueType.unit.spelling := by
  constructor
  · intro h
    cases h with
    | unknown h =>
        unfold Compiled.elementType at h
        cases ht : g.typeOf? nt with
        | none => simpa [ht, eq_comm] using h
        | some t => simp [ht] at h
    | unboxed h hunit =>
        unfold Compiled.elementType at h
        cases ht : g.typeOf? nt with
        | none => simp [ht] at h
        | some t =>
            obtain rfl : t = _ := by simpa [ht] using h
            exact .inr ⟨t, rfl, hunit, rfl⟩
  · rintro (⟨ht, rfl⟩ | ⟨t, ht, hunit, rfl⟩)
    · exact .unknown (by rw [Compiled.elementType, ht])
    · exact .unboxed (by rw [Compiled.elementType, ht]) hunit

end Element

end Grammar

namespace Compiled

open ParserTables.Grammar.Element (Typed TypingFault)

/-- An arm can be made for a production: its reducer compiles, and if the value is computed, every
slot that is read holds a typed element. -/
def Reducible (g : Declarations) (p : Production) : Prop :=
  ∃ e, compile g p = .ok e ∧
    (p.shape = .full → ∀ i ∈ e.slots, ∀ el, p.concrete[i]? = some el → Typed g el)

/-- Why no arm can be made for a production: its reducer does not compile, or the value is
computed and a slot that is read holds an untyped element. The highest such slot is the one at
fault. -/
inductive ReductionFault (g : Declarations) (p : Production) : Fault → Prop
  | reducer {f : Fault} : compile g p = .error f → ReductionFault g p f
  | slot {f : Fault} {e : Expr} {i : Nat} {el : Element} : compile g p = .ok e →
      p.shape = .full → i ∈ e.slots → p.concrete[i]? = some el → TypingFault g el f →
      (∀ j ∈ e.slots, j > i → ∀ el', p.concrete[j]? = some el' → Typed g el') →
      ReductionFault g p f

variable {settings : CompiledSettings} {g : Declarations} {f : Fault}

/-! ### Slots -/

theorem popStatement_of_not_mem {shape : Production.Shape} {read : List Nat}
    {slot : Element × Nat} (h : slot.2 ∉ read) :
    popStatement settings g shape read slot = .ok .drop := by
  simp [popStatement, h]

theorem popStatement_full_of_mem {read : List Nat} {slot : Element × Nat} (h : slot.2 ∈ read) :
    popStatement settings g .full read slot = do
      let t ← elementType g slot.1
      let type ← spellType settings.typeSpace true t
      return .cast slot.2 type := by
  have hcontains : read.contains slot.2 = true := List.contains_iff_mem.2 h
  simp only [popStatement, hcontains, Bool.not_true, Bool.false_eq_true, if_false]

theorem exists_popStatement_full_iff {read : List Nat} {slot : Element × Nat} :
    (∃ st, popStatement settings g .full read slot = .ok st) ↔
      (slot.2 ∈ read → Typed g slot.1) := by
  by_cases hread : slot.2 ∈ read
  · rw [popStatement_full_of_mem hread, exists_bind_eq_ok_iff, imp_iff_right hread]
    exact exists_congr fun t => and_congr_right fun _ =>
      exists_bind_pure_eq_ok_iff.trans exists_spellType_boxed_iff
  · exact iff_of_true ⟨_, popStatement_of_not_mem hread⟩ fun h => absurd h hread

theorem popStatement_full_eq_error_iff {read : List Nat} {slot : Element × Nat} :
    popStatement settings g .full read slot = .error f ↔
      slot.2 ∈ read ∧ TypingFault g slot.1 f := by
  by_cases hread : slot.2 ∈ read
  · rw [popStatement_full_of_mem hread, bind_eq_error, and_iff_right hread]
    simp only [bind_pure_eq_error, spellType_boxed_eq_error_iff]
    constructor
    · rintro (h | ⟨t, ht, hunit, rfl⟩)
      · exact .unknown h
      · exact .unboxed ht hunit
    · intro h
      cases h with
      | unknown h => exact .inl h
      | unboxed ht hunit => exact .inr ⟨_, ht, hunit, rfl⟩
  · rw [popStatement_of_not_mem hread]
    simp [hread]

/-- A value that is not cast needs no type. -/
theorem exists_popStatement_of_ne_full {shape : Production.Shape} (h : shape ≠ .full)
    (read : List Nat) (slot : Element × Nat) :
    ∃ st, popStatement settings g shape read slot = .ok st := by
  unfold popStatement
  split
  · exact ⟨_, rfl⟩
  · split
    · exact absurd rfl h
    · exact ⟨_, rfl⟩

/-! ### Bodies of arms -/

section Body

variable {p : Production} {e : Expr} {value : Value} {read : List Nat}

theorem exists_armBody_of_ne_full (h : p.shape ≠ .full) :
    ∃ body, armBody settings g p value read = .ok body := by
  unfold armBody
  split
  · exact ⟨_, rfl⟩
  · rw [exists_bind_pure_eq_ok_iff, exists_mapM_eq_ok_iff]
    exact fun slot _ => exists_popStatement_of_ne_full h _ slot

theorem armBody_of_full (h : p.shape = .full) :
    armBody settings g p value read = do
      let pops ← p.concrete.zipIdx.reverse.mapM (popStatement settings g .full read)
      return pops ++ [pushStatement .full value] := by
  rw [armBody, h]

/-- The body of the arm of a computed value can be made if the slots that are read are typed. -/
theorem exists_armBody_full_iff (he : compile g p = .ok e) (h : p.shape = .full) :
    (∃ body, armBody settings g p value (slotsRead p e) = .ok body) ↔
      ∀ i ∈ e.slots, ∀ el, p.concrete[i]? = some el → Typed g el := by
  rw [armBody_of_full h, exists_bind_pure_eq_ok_iff, exists_mapM_eq_ok_iff]
  simp only [exists_popStatement_full_iff, mem_slotsRead he, List.mem_reverse, Prod.forall,
    List.mk_mem_zipIdx_iff_getElem?]
  constructor
  · intro hslots i hi el hel
    exact hslots el i hel hi
  · intro hslots el i hel hi
    exact hslots i hi el hel

theorem armBody_full_eq_error_iff (he : compile g p = .ok e) (h : p.shape = .full) :
    armBody settings g p value (slotsRead p e) = .error f ↔
      ∃ i ∈ e.slots, ∃ el, p.concrete[i]? = some el ∧ TypingFault g el f ∧
        ∀ j ∈ e.slots, j > i → ∀ el', p.concrete[j]? = some el' → Typed g el' := by
  rw [armBody_of_full h, bind_pure_eq_error,
    mapM_eq_error_iff (fun _ => exists_popStatement_full_iff)
      (fun _ _ => popStatement_full_eq_error_iff),
    firstFault_reverse_iff]
  simp only [mem_slotsRead he, List.getElem?_zipIdx, Option.map_eq_some_iff, Nat.zero_add]
  constructor
  · rintro ⟨i, -, ⟨el, hel, rfl⟩, ⟨hi, hfault⟩, hafter⟩
    exact ⟨i, hi, el, hel, hfault, fun j hj hij el' hel' =>
      hafter j hij _ ⟨el', hel', rfl⟩ hj⟩
  · rintro ⟨i, hi, el, hel, hfault, hafter⟩
    refine ⟨i, _, ⟨el, hel, rfl⟩, ⟨hi, hfault⟩, ?_⟩
    rintro j hij - ⟨el', hel', rfl⟩ hj
    exact hafter j hj hij el' hel'

end Body

/-! ### Arms and entries -/

theorem exists_armOf_iff {i : Nat} {p : Production} :
    (∃ arm, armOf settings g i p = .ok arm) ↔ Reducible g p := by
  rw [armOf, bind_compileIn, exists_bind_eq_ok_iff]
  simp only [exists_bind_pure_eq_ok_iff]
  refine exists_congr fun e => and_congr_right fun he => ?_
  by_cases hshape : p.shape = .full
  · rw [exists_armBody_full_iff he hshape]
    simp only [hshape, true_implies]
  · exact iff_of_true (exists_armBody_of_ne_full hshape) fun h => absurd h hshape

theorem armOf_eq_error_iff {i : Nat} {p : Production} :
    armOf settings g i p = .error f ↔ ReductionFault g p f := by
  rw [armOf, bind_compileIn, bind_eq_error]
  simp only [bind_pure_eq_error]
  constructor
  · rintro (h | ⟨e, he, h⟩)
    · exact .reducer h
    · by_cases hshape : p.shape = .full
      · obtain ⟨i, hi, el, hel, hfault, hafter⟩ := (armBody_full_eq_error_iff he hshape).1 h
        exact .slot he hshape hi hel hfault hafter
      · obtain ⟨body, hbody⟩ := exists_armBody_of_ne_full hshape
        cases h.symm.trans hbody
  · intro h
    cases h with
    | reducer h => exact .inl h
    | slot he hshape hi hel hfault hafter =>
        exact .inr ⟨_, he, (armBody_full_eq_error_iff he hshape).2
          ⟨_, hi, _, hel, hfault, hafter⟩⟩

/-- The value of a goal is cast like the value of an element. -/
theorem exists_entryOf_iff {goal : Nonterminal × Nat} :
    (∃ entry, entryOf settings g goal = .ok entry) ↔ Typed g (.nonterminal goal.1) := by
  rw [Element.typed_nonterminal_iff]
  unfold entryOf
  cases g.typeOf? goal.1 with
  | none => simp
  | some t =>
      simp only [exists_bind_pure_eq_ok_iff, exists_spellType_boxed_iff]
      simp

theorem entryOf_eq_error_iff {goal : Nonterminal × Nat} :
    entryOf settings g goal = .error f ↔ TypingFault g (.nonterminal goal.1) f := by
  rw [Element.typingFault_nonterminal_iff]
  unfold entryOf
  cases g.typeOf? goal.1 with
  | none => simp [eq_comm]
  | some t =>
      simp only [bind_pure_eq_error, spellType_boxed_eq_error_iff]
      simp

end Compiled

end ParserTables
