import ParserTables.Proofs.Compiled.Boxing

/-!
# Where boxes stand

A part of a type is named by its address: the number of the argument to go into at each step from
the outside, where the only part of an optional value or of a sequence has number zero. The boxed
translation of a type is its unboxed translation with one box around each token, sequence and
declared type whose address leads through no sequence (`targetType_box_places`). The boxes are all
that the two translations differ in.
-/

namespace ParserTables

open ParserTables.Grammar

/-! ### Parts of a type that are not inside a sequence -/

namespace Grammar.ValueType

/-- A part that a type has directly, if the type is not a sequence. -/
def directPart? : ValueType → Nat → Option ValueType
  | .option inner, 0 => some inner
  | .named _ args, i => args[i]?
  | _, _ => none

/-- The part of a type at an address that leads through optional values and arguments of declared
types only. -/
def exposed? : ValueType → List Nat → Option ValueType
  | t, [] => some t
  | t, i :: p => (t.directPart? i).bind fun part => part.exposed? p

/-- A box can stand directly around a value of this type. -/
def takesBox : ValueType → Bool
  | .unit | .option _ => false
  | .token | .sequence _ | .named _ _ => true

/-- The addresses of the parts that a box stands around. -/
def boxPlace (t : ValueType) (p : List Nat) : Bool := (t.exposed? p).any takesBox

/-- The addresses of the parts that a box stands around, in several types by their number. -/
def boxPlaceOfList (ts : List ValueType) (i : Nat) (p : List Nat) : Bool :=
  (ts[i]?.bind fun t => t.exposed? p).any takesBox

theorem exposed?_cons_eq_some {t s : ValueType} {i : Nat} {p : List Nat} :
    t.exposed? (i :: p) = some s ↔ ∃ part, t.directPart? i = some part ∧ part.exposed? p = some s :=
  Option.bind_eq_some_iff

theorem ExposesUnit.exists_exposed? {t : ValueType} (h : t.ExposesUnit) :
    ∃ p, t.exposed? p = some .unit := by
  induction h with
  | unit => exact ⟨[], rfl⟩
  | option _ ih =>
      obtain ⟨p, hp⟩ := ih
      exact ⟨0 :: p, hp⟩
  | named hmem _ ih =>
      obtain ⟨p, hp⟩ := ih
      obtain ⟨i, hi⟩ := List.getElem?_of_mem hmem
      exact ⟨i :: p, exposed?_cons_eq_some.2 ⟨_, hi, hp⟩⟩

theorem ExposesUnit.of_directPart? {t part : ValueType} {i : Nat} (h : t.directPart? i = some part)
    (hpart : part.ExposesUnit) : t.ExposesUnit := by
  cases t with
  | unit => cases h
  | token => cases h
  | option inner =>
      cases i with
      | zero =>
          cases h
          exact .option hpart
      | succ i => cases h
  | sequence inner => cases h
  | named name args => exact .named (List.mem_of_getElem? h) hpart

theorem exposesUnit_of_exposed? {p : List Nat} {t : ValueType}
    (h : t.exposed? p = some .unit) : t.ExposesUnit := by
  induction p generalizing t with
  | nil =>
      cases h
      exact .unit
  | cons i p ih =>
      obtain ⟨part, hpart, hp⟩ := exposed?_cons_eq_some.1 h
      exact .of_directPart? hpart (ih hp)

/-- A box for a value would stand around the unit type exactly if the unit type is a part that no
sequence is around. -/
theorem exposesUnit_iff_exposed? {t : ValueType} :
    t.ExposesUnit ↔ ∃ p, t.exposed? p = some .unit :=
  ⟨ExposesUnit.exists_exposed?, fun ⟨_, h⟩ => exposesUnit_of_exposed? h⟩

end Grammar.ValueType

namespace Compiled

/-! ### Boxes in types of the target -/

namespace TargetType

mutual

/-- The nodes of a type: the type itself, and then the nodes of its parts. -/
def nodes : TargetType → List TargetType
  | .unit => [.unit]
  | .token => [.token]
  | .option inner => .option inner :: inner.nodes
  | .vector inner => .vector inner :: inner.nodes
  | .path name args => .path name args :: nodesOfList args
  | .box inner => .box inner :: inner.nodes

/-- The nodes of several types. -/
def nodesOfList : List TargetType → List TargetType
  | [] => []
  | t :: rest => t.nodes ++ nodesOfList rest

end

/-- There is no box in the type. -/
def BoxFree (t : TargetType) : Prop := ∀ inner, .box inner ∉ t.nodes

/-- A box stands around a token, a sequence or a declared type, and there is none inside a
sequence. -/
def WellPlaced : TargetType → Prop
  | .box .token | .box (.vector _) | .box (.path _ _) => True
  | .box _ => False
  | .vector inner => inner.BoxFree
  | _ => True

/-- A part that a type has directly. -/
def directPart? : TargetType → Nat → Option TargetType
  | .option inner, 0 | .vector inner, 0 | .box inner, 0 => some inner
  | .path _ args, i => args[i]?
  | _, _ => none

/-- The part of a type at an address. -/
def part? : TargetType → List Nat → Option TargetType
  | t, [] => some t
  | t, i :: p => (t.directPart? i).bind fun part => part.part? p

mutual

/-- The type with a box around each part whose address is one of the places. -/
def wrapAt : TargetType → (List Nat → Bool) → TargetType
  | .unit, places => if places [] then .box .unit else .unit
  | .token, places => if places [] then .box .token else .token
  | .option inner, places =>
    let wrapped := .option (inner.wrapAt fun p => places (0 :: p))
    if places [] then .box wrapped else wrapped
  | .vector inner, places =>
    let wrapped := .vector (inner.wrapAt fun p => places (0 :: p))
    if places [] then .box wrapped else wrapped
  | .path name args, places =>
    let wrapped := .path name (wrapListAt args fun i p => places (i :: p))
    if places [] then .box wrapped else wrapped
  | .box inner, places =>
    let wrapped := .box (inner.wrapAt fun p => places (0 :: p))
    if places [] then .box wrapped else wrapped

/-- Several types with a box around each part at one of the places, which are given for each type
by its number. -/
def wrapListAt : List TargetType → (Nat → List Nat → Bool) → List TargetType
  | [], _ => []
  | t :: rest, places => t.wrapAt (places 0) :: wrapListAt rest fun i => places (i + 1)

end

mutual

/-- The type without its boxes. -/
def unwrapped : TargetType → TargetType
  | .unit => .unit
  | .token => .token
  | .option inner => .option inner.unwrapped
  | .vector inner => .vector inner.unwrapped
  | .path name args => .path name (unwrappedList args)
  | .box inner => inner.unwrapped

/-- Several types without their boxes. -/
def unwrappedList : List TargetType → List TargetType
  | [] => []
  | t :: rest => t.unwrapped :: unwrappedList rest

end

theorem unwrapped_ite_box (boxed : Bool) (t : TargetType) :
    (if boxed then .box t else t).unwrapped = t.unwrapped := by
  cases boxed <;> rfl

theorem forall_mem_nodes_boxedIf {P : TargetType → Prop} {boxed : Bool} {t : TargetType} :
    (∀ node ∈ (boxedIf boxed t).nodes, P node) ↔
      (boxed = true → P (.box t)) ∧ ∀ node ∈ t.nodes, P node := by
  cases boxed with
  | false => simp [boxedIf]
  | true => simp [boxedIf, nodes]

mutual

theorem wrapAt_nowhere : ∀ t : TargetType, (t.wrapAt fun _ => false) = t
  | .unit => rfl
  | .token => rfl
  | .option inner => by rw [wrapAt, wrapAt_nowhere inner]; rfl
  | .vector inner => by rw [wrapAt, wrapAt_nowhere inner]; rfl
  | .path name args => by rw [wrapAt, wrapListAt_nowhere args]; rfl
  | .box inner => by rw [wrapAt, wrapAt_nowhere inner]; rfl

theorem wrapListAt_nowhere : ∀ ts : List TargetType, (wrapListAt ts fun _ _ => false) = ts
  | [] => rfl
  | t :: ts => by rw [wrapListAt, wrapAt_nowhere t, wrapListAt_nowhere ts]

end

mutual

theorem unwrapped_wrapAt : ∀ (t : TargetType) (places : List Nat → Bool),
    (t.wrapAt places).unwrapped = t.unwrapped
  | .unit, places => by rw [wrapAt, unwrapped_ite_box]
  | .token, places => by rw [wrapAt, unwrapped_ite_box]
  | .option inner, places => by
      rw [wrapAt, unwrapped_ite_box, unwrapped, unwrapped_wrapAt inner, unwrapped]
  | .vector inner, places => by
      rw [wrapAt, unwrapped_ite_box, unwrapped, unwrapped_wrapAt inner, unwrapped]
  | .path name args, places => by
      rw [wrapAt, unwrapped_ite_box, unwrapped, unwrappedList_wrapListAt args, unwrapped]
  | .box inner, places => by
      rw [wrapAt, unwrapped_ite_box, unwrapped, unwrapped_wrapAt inner, unwrapped]

theorem unwrappedList_wrapListAt : ∀ (ts : List TargetType) (places : Nat → List Nat → Bool),
    unwrappedList (wrapListAt ts places) = unwrappedList ts
  | [], places => rfl
  | t :: ts, places => by
      rw [wrapListAt, unwrappedList, unwrapped_wrapAt t, unwrappedList_wrapListAt ts,
        unwrappedList]

end

mutual

theorem BoxFree.unwrapped_eq : ∀ {t : TargetType}, t.BoxFree → t.unwrapped = t
  | .unit, _ => rfl
  | .token, _ => rfl
  | .option inner, h => by
      rw [unwrapped, BoxFree.unwrapped_eq fun s hs => h s (List.mem_cons_of_mem _ hs)]
  | .vector inner, h => by
      rw [unwrapped, BoxFree.unwrapped_eq fun s hs => h s (List.mem_cons_of_mem _ hs)]
  | .path name args, h => by
      rw [unwrapped, unwrappedList_eq fun s hs => h s (List.mem_cons_of_mem _ hs)]
  | .box inner, h => absurd List.mem_cons_self (h inner)

theorem unwrappedList_eq : ∀ {ts : List TargetType}, (∀ inner, .box inner ∉ nodesOfList ts) →
    unwrappedList ts = ts
  | [], _ => rfl
  | t :: ts, h => by
      rw [unwrappedList, BoxFree.unwrapped_eq fun s hs => h s (List.mem_append_left _ hs),
        unwrappedList_eq fun s hs => h s (List.mem_append_right _ hs)]

end

end TargetType

/-! ### Boxes in translations -/

variable {space : String}

theorem targetTypes_cons_eq_ok {boxed : Bool} {t : ValueType} {ts : List ValueType}
    {us : List TargetType} :
    targetTypes space boxed (t :: ts) = .ok us ↔ ∃ u us', targetType space boxed t = .ok u ∧
      targetTypes space boxed ts = .ok us' ∧ us = u :: us' := by
  rw [targetTypes_eq_mapM, targetTypes_eq_mapM, mapM_cons_eq_ok]

mutual

theorem boxFree_of_targetType : ∀ {t : ValueType} {u : TargetType},
    targetType space false t = .ok u → u.BoxFree
  | .unit, u, h => by
      cases h
      simp [TargetType.BoxFree, TargetType.nodes]
  | .token, u, h => by
      cases h
      simp [TargetType.BoxFree, TargetType.nodes, TargetType.boxedIf]
  | .option inner, u, h => by
      obtain ⟨v, hv, rfl⟩ := map_eq_ok.1 h
      intro s hs
      exact boxFree_of_targetType hv s ((List.mem_cons.1 hs).resolve_left nofun)
  | .sequence inner, u, h => by
      obtain ⟨v, hv, rfl⟩ := map_eq_ok.1 h
      intro s hs
      exact boxFree_of_targetType hv s ((List.mem_cons.1 hs).resolve_left nofun)
  | .named name args, u, h => by
      obtain ⟨vs, hvs, rfl⟩ := map_eq_ok.1 h
      intro s hs
      exact boxFree_of_targetTypes hvs s ((List.mem_cons.1 hs).resolve_left nofun)

theorem boxFree_of_targetTypes : ∀ {ts : List ValueType} {us : List TargetType},
    targetTypes space false ts = .ok us → ∀ inner, .box inner ∉ TargetType.nodesOfList us
  | [], us, h => by
      cases h
      simp [TargetType.nodesOfList]
  | t :: ts, us, h => by
      obtain ⟨v, vs, hv, hvs, rfl⟩ := targetTypes_cons_eq_ok.1 h
      intro s hs
      rcases List.mem_append.1 hs with hs | hs
      · exact boxFree_of_targetType hv s hs
      · exact boxFree_of_targetTypes hvs s hs

end

mutual

/-- No translation, boxed or not, has a box in a place where none may be. -/
theorem wellPlaced_of_targetType : ∀ {t : ValueType} {boxed : Bool} {b : TargetType},
    targetType space boxed t = .ok b → ∀ node ∈ b.nodes, node.WellPlaced
  | .unit, boxed, b, h => by
      cases boxed with
      | false =>
          cases h
          simp [TargetType.nodes, TargetType.WellPlaced]
      | true => cases h
  | .token, boxed, b, h => by
      cases h
      rw [TargetType.forall_mem_nodes_boxedIf]
      exact ⟨fun _ => trivial, by simp [TargetType.nodes, TargetType.WellPlaced]⟩
  | .option inner, boxed, b, h => by
      obtain ⟨v, hv, rfl⟩ := map_eq_ok.1 h
      exact List.forall_mem_cons.2 ⟨trivial, wellPlaced_of_targetType hv⟩
  | .sequence inner, boxed, b, h => by
      -- The items are translated unboxed, whatever is asked of the sequence.
      obtain ⟨v, hv, rfl⟩ := map_eq_ok.1 h
      rw [TargetType.forall_mem_nodes_boxedIf]
      exact ⟨fun _ => trivial, List.forall_mem_cons.2
        ⟨boxFree_of_targetType hv, wellPlaced_of_targetType hv⟩⟩
  | .named name args, boxed, b, h => by
      obtain ⟨vs, hvs, rfl⟩ := map_eq_ok.1 h
      rw [TargetType.forall_mem_nodes_boxedIf]
      exact ⟨fun _ => trivial, List.forall_mem_cons.2 ⟨trivial, wellPlaced_of_targetTypes hvs⟩⟩

theorem wellPlaced_of_targetTypes : ∀ {ts : List ValueType} {boxed : Bool}
    {bs : List TargetType}, targetTypes space boxed ts = .ok bs →
      ∀ node ∈ TargetType.nodesOfList bs, node.WellPlaced
  | [], boxed, bs, h => by
      cases h
      simp [TargetType.nodesOfList]
  | t :: ts, boxed, bs, h => by
      obtain ⟨v, vs, hv, hvs, rfl⟩ := targetTypes_cons_eq_ok.1 h
      exact List.forall_mem_append.2 ⟨wellPlaced_of_targetType hv, wellPlaced_of_targetTypes hvs⟩

end

mutual

/-- A type that can be boxed is translated by putting the boxes around the parts of its unboxed
translation. -/
theorem targetType_boxed_eq_wrapAt : ∀ {t : ValueType} {u : TargetType},
    targetType space false t = .ok u → ¬ t.ExposesUnit →
      targetType space true t = .ok (u.wrapAt t.boxPlace)
  | .unit, u, _, hunit => absurd .unit hunit
  | .token, u, h, _ => by
      cases h
      rfl
  | .option inner, u, h, hunit => by
      obtain ⟨v, hv, rfl⟩ := map_eq_ok.1 h
      have hinner := targetType_boxed_eq_wrapAt hv (mt .option hunit)
      rw [targetType, hinner]
      rfl
  | .sequence inner, u, h, _ => by
      obtain ⟨v, hv, rfl⟩ := map_eq_ok.1 h
      -- No address leads into a sequence, so that there is no place for a box in it.
      have hinner : (v.wrapAt fun p => ValueType.boxPlace (.sequence inner) (0 :: p)) = v :=
        TargetType.wrapAt_nowhere v
      rw [targetType, hv]
      exact congrArg (fun w => Except.ok (TargetType.box (.vector w))) hinner.symm
  | .named name args, u, h, hunit => by
      obtain ⟨vs, hvs, rfl⟩ := map_eq_ok.1 h
      have hargs := targetTypes_boxed_eq_wrapListAt hvs fun arg hmem => mt (.named hmem) hunit
      rw [targetType, hargs]
      rfl

theorem targetTypes_boxed_eq_wrapListAt : ∀ {ts : List ValueType} {us : List TargetType},
    targetTypes space false ts = .ok us → (∀ t ∈ ts, ¬ t.ExposesUnit) →
      targetTypes space true ts = .ok (TargetType.wrapListAt us (ValueType.boxPlaceOfList ts))
  | [], us, h, _ => by
      cases h
      rfl
  | t :: ts, us, h, hunit => by
      obtain ⟨v, vs, hv, hvs, rfl⟩ := targetTypes_cons_eq_ok.1 h
      obtain ⟨ht, hts⟩ := List.forall_mem_cons.1 hunit
      exact targetTypes_cons_eq_ok.2 ⟨_, _, targetType_boxed_eq_wrapAt hv ht,
        targetTypes_boxed_eq_wrapListAt hvs hts, rfl⟩

end

theorem directPart?_of_targetType {t part : ValueType} {i : Nat} {u : TargetType}
    (hpart : t.directPart? i = some part) (hu : targetType space false t = .ok u) :
    ∃ v, u.directPart? i = some v ∧ targetType space false part = .ok v := by
  cases t with
  | unit => cases hpart
  | token => cases hpart
  | option inner =>
      cases i with
      | zero =>
          cases hpart
          obtain ⟨v, hv, rfl⟩ := map_eq_ok.1 hu
          exact ⟨v, rfl, hv⟩
      | succ i => cases hpart
  | sequence inner => cases hpart
  | named name args =>
      obtain ⟨vs, hvs, rfl⟩ := map_eq_ok.1 hu
      rw [targetTypes_eq_mapM] at hvs
      exact getElem?_of_mapM' hvs hpart

/-- The translation of a part stands at the address of the part. -/
theorem part?_of_exposed? {p : List Nat} {t part : ValueType} {u : TargetType}
    (hpart : t.exposed? p = some part) (hu : targetType space false t = .ok u) :
    ∃ v, u.part? p = some v ∧ targetType space false part = .ok v := by
  induction p generalizing t u with
  | nil =>
      cases hpart
      exact ⟨u, rfl, hu⟩
  | cons i p ih =>
      obtain ⟨t', ht', hpart⟩ := ValueType.exposed?_cons_eq_some.1 hpart
      obtain ⟨u', hu', htarget⟩ := directPart?_of_targetType ht' hu
      obtain ⟨v, hv, htarget⟩ := ih hpart htarget
      exact ⟨v, Option.bind_eq_some_iff.2 ⟨u', hu', hv⟩, htarget⟩

/-- Every type has an unboxed translation, without a box, in which the translation of a part stands
at the address of the part. The boxed translation fails exactly if the unit type is a part that no
sequence is around. Otherwise it is the unboxed one with a box around each token, sequence and
declared type that no sequence is around, and without its boxes it is the unboxed one again. -/
theorem targetType_box_places (space : String) (t : ValueType) :
    ∃ u, (targetType space false t = .ok u ∧ spellType space false t = .ok u.written ∧
        u.BoxFree) ∧
      (∀ p part, t.exposed? p = some part →
        ∃ v, u.part? p = some v ∧ targetType space false part = .ok v) ∧
      (∀ f, spellType space true t = .error f ↔
        (∃ p, t.exposed? p = some .unit) ∧ f = .boxedUnit ValueType.unit.spelling) ∧
      ((∀ p, t.exposed? p ≠ some .unit) →
        ∃ b, targetType space true t = .ok b ∧ spellType space true t = .ok b.written ∧
          b = u.wrapAt t.boxPlace ∧ (∀ node ∈ b.nodes, node.WellPlaced) ∧ b.unwrapped = u) := by
  obtain ⟨u, hu⟩ : ∃ u, targetType space false t = .ok u :=
    exists_ok_iff_forall_ne_error.2 fun _ => targetType_unboxed_ne_error t
  have hfree : u.BoxFree := boxFree_of_targetType hu
  refine ⟨u, ⟨hu, map_eq_ok.2 ⟨u, hu, rfl⟩, hfree⟩, fun _ _ hpart => part?_of_exposed? hpart hu,
    fun f => ?_, fun hunit => ?_⟩
  · rw [spellType_boxed_eq_error_iff, ValueType.exposesUnit_iff_exposed?]
  · have hb : targetType space true t = .ok (u.wrapAt t.boxPlace) :=
      targetType_boxed_eq_wrapAt hu fun h => not_exists.2 hunit h.exists_exposed?
    refine ⟨_, hb, map_eq_ok.2 ⟨_, hb, rfl⟩, rfl, wellPlaced_of_targetType hb, ?_⟩
    rw [TargetType.unwrapped_wrapAt, hfree.unwrapped_eq]

/-- A declared type that may be absent, with a token, a sequence and an optional value as its
arguments. -/
def callType : ValueType :=
  .option (.named "Call" [.token, .sequence (.named "Expr" []), .option (.named "Expr" [])])

/-- The boxes stand inside the optional values, around the arguments, and not in the sequence. -/
theorem targetType_box_places_call :
    (∀ p, callType.exposed? p ≠ some .unit) ∧
      spellType "ast" true callType = .ok ("Option<Box<'alloc, ast::Call<" ++
        "Box<'alloc, Token<'alloc>>, Box<'alloc, Vec<'alloc, ast::Expr>>, " ++
        "Option<Box<'alloc, ast::Expr>>>>>") := by
  have hunit : ∀ p, callType.exposed? p ≠ some .unit := by
    intro p hp
    have h := ValueType.exposesUnit_of_exposed? hp
    simp [callType, ValueType.exposesUnit_option_iff, ValueType.exposesUnit_named_iff,
      ValueType.not_exposesUnit_token, ValueType.not_exposesUnit_sequence] at h
  obtain ⟨u, ⟨hu, -, -⟩, -, -, hboxed⟩ := targetType_box_places "ast" callType
  obtain ⟨b, -, hspelled, rfl, -, -⟩ := hboxed hunit
  cases hu
  exact ⟨hunit, hspelled.trans rfl⟩

end Compiled

end ParserTables
