import ParserTables.Reduction
import ParserTables.Proofs.Failure

/-!
# The values of reducers

What a reducer means, apart from any target. A `Meaning` says what absence and presence are and
what each method returns; nothing is assumed of it, so a method is an uninterpreted function of
the values of its arguments. `value?` is the value of a reducer over the values in the slots.

`value?_of_retain` ties the meaning to compilation: what is retained of a reducer, spelled in
values, is the value of the reducer. `map_value?` says how a value changes when every presence is
erased from the values that it is made of.
-/

namespace ParserTables.Reduction

open ParserTables.Grammar

/-- How values are made: the absent value, a present one, and the results of the methods. -/
structure Meaning (ν : Type) where
  absent : ν
  present : ν → ν
  result : String → List ν → ν

namespace Meaning

variable {ν ν' : Type}

/-- The same values, with the methods known by other names. -/
def renamed (m : Meaning ν) (name : String → String) : Meaning ν :=
  { m with result := fun method => m.result (name method) }

/-- The same values, where a present value is the value itself. -/
def erased (m : Meaning ν) : Meaning ν := { m with present := id }

@[simp] theorem erased_absent (m : Meaning ν) : m.erased.absent = m.absent := rfl

@[simp] theorem erased_present (m : Meaning ν) (v : ν) : m.erased.present v = v := rfl

@[simp] theorem erased_result (m : Meaning ν) (method : String) (vs : List ν) :
    m.erased.result method vs = m.result method vs := rfl

/-- `f` erases presence: it takes the values of `m` to those of `m'`, and a present value to what
it takes the value inside to. -/
structure Erases (m : Meaning ν) (m' : Meaning ν') (f : ν → ν') : Prop where
  absent : f m.absent = m'.absent
  present : ∀ v, f (m.present v) = f v
  result : ∀ method vs, f (m.result method vs) = m'.result method (vs.map f)

theorem Erases.renamed {m : Meaning ν} {m' : Meaning ν'} {f : ν → ν'} (h : m.Erases m' f)
    (name : String → String) : (m.renamed name).Erases (m'.renamed name) f where
  absent := h.absent
  present := h.present
  result method vs := h.result (name method) vs

/-- Expressions are spelled in values: a slot is the value in it. -/
def spelling (m : Meaning ν) (slots : List ν) : Spelling ν where
  slot i := slots.getD i m.absent
  none := m.absent
  some := m.present
  call method _ vs := m.result method vs

end Meaning

section Value

variable {ν ν' : Type} (m : Meaning ν) (g : Declarations) (slots : List ν)

mutual

/-- The value of a reducer over the values of the slots. A reducer that reads a slot that is not
there has no value, and neither has a call that does not fit the declared methods. An argument at
a parameter of the unit type is not looked at. -/
def value? : Reducer → Option ν
  | .slot i => slots[i]?
  | .none => some m.absent
  | .some inner => (value? inner).map m.present
  | .call method args =>
    match g.method? method with
    | none => none
    | some s =>
      if s.argumentTypes.length = args.length then
        (values? s.argumentTypes args).map (m.result method)
      else none

/-- The values of the arguments at parameters that have one. -/
def values? : List ValueType → List Reducer → Option (List ν)
  | t :: ts, r :: rs =>
    if t = .unit then values? ts rs
    else (value? r).bind fun v => (values? ts rs).map fun vs => v :: vs
  | _, _ => some []

end

end Value

variable {ν ν' : Type} {g : Declarations} {n : Nat} {name : String}

theorem values?_cons (m : Meaning ν) (slots : List ν) (t : ValueType) (ts : List ValueType)
    (r : Reducer) (rs : List Reducer) :
    values? m g slots (t :: ts) (r :: rs) =
      if t = .unit then values? m g slots ts rs
      else (value? m g slots r).bind fun v => (values? m g slots ts rs).map fun vs => v :: vs := by
  rw [values?]

/-- A retained call is a call of a declared method with as many arguments as it declares. -/
theorem retain_call_eq_ok {method : String} {args : List Reducer} {e : Expr}
    (h : retain g n name (.call method args) = .ok e) :
    ∃ s es, g.method? method = some s ∧ s.argumentTypes.length = args.length ∧
      retainArgs g n name s.argumentTypes args = .ok es ∧ e = .call method s es := by
  rw [retain] at h
  cases hs : g.method? method with
  | none => simp [hs] at h
  | some s =>
    by_cases hl : s.argumentTypes.length = args.length
    · simp only [hs, hl, ne_eq, not_true_eq_false, if_false] at h
      obtain ⟨es, hes, rfl⟩ := map_eq_ok.1 h
      exact ⟨s, es, rfl, hl, hes, rfl⟩
    · simp [hs, hl] at h

/-- Retained arguments are retained one by one, without those at parameters of the unit type. -/
theorem retainArgs_cons_eq_ok {t : ValueType} {ts : List ValueType} {r : Reducer}
    {rs : List Reducer} {es : List Expr}
    (h : retainArgs g n name (t :: ts) (r :: rs) = .ok es) :
    (t = .unit ∧ retainArgs g n name ts rs = .ok es) ∨
      (t ≠ .unit ∧ ∃ e es', retain g n name r = .ok e ∧
        retainArgs g n name ts rs = .ok es' ∧ es = e :: es') := by
  rw [retainArgs] at h
  by_cases ht : t = .unit
  · subst ht
    exact .inl ⟨rfl, by simpa [ValueType.isUnit] using h⟩
  · have hu : t.isUnit = false := Bool.eq_false_iff.2 (mt (ValueType.isUnit_iff t).1 ht)
    simp only [hu, Bool.false_eq_true, if_false] at h
    obtain ⟨e, he, h⟩ := bind_eq_ok.1 h
    obtain ⟨es', hes, h⟩ := bind_eq_ok.1 h
    exact .inr ⟨ht, e, es', he, hes, (pure_eq_ok.1 h).symm⟩

theorem retain_some_eq_ok {inner : Reducer} {e : Expr}
    (h : retain g n name (.some inner) = .ok e) :
    ∃ e', retain g n name inner = .ok e' ∧ e = .some e' := by
  rw [retain] at h
  obtain ⟨e', he', rfl⟩ := map_eq_ok.1 h
  exact ⟨e', he', rfl⟩

theorem retain_slot_eq_ok {i : Nat} {e : Expr} (h : retain g n name (.slot i) = .ok e) :
    i < n ∧ e = .slot i := by
  rw [retain] at h
  split at h
  · next hi => cases h; exact ⟨hi, rfl⟩
  · cases h

mutual

/-- The value of a reducer is what is retained of it, spelled in values. -/
theorem value?_of_retain (m : Meaning ν) {slots : List ν} (hn : slots.length = n) :
    ∀ {r : Reducer} {e : Expr}, retain g n name r = .ok e →
      value? m g slots r = some (e.spell (m.spelling slots))
  | .slot i, e, h => by
    obtain ⟨hi, rfl⟩ := retain_slot_eq_ok h
    have hs : i < slots.length := hn ▸ hi
    simp [value?, Expr.spell, Meaning.spelling, hs]
  | .none, e, h => by
    cases h
    simp [value?, Expr.spell, Meaning.spelling]
  | .some inner, e, h => by
    obtain ⟨e', he', rfl⟩ := retain_some_eq_ok h
    rw [value?, value?_of_retain m hn he', Expr.spell]
    rfl
  | .call method args, e, h => by
    obtain ⟨s, es, hs, hl, hes, rfl⟩ := retain_call_eq_ok h
    rw [value?, hs, Expr.spell]
    simp only [hl, if_true, values?_of_retainArgs m hn hes]
    rfl

/-- The values of the arguments are what is retained of them, spelled in values. -/
theorem values?_of_retainArgs (m : Meaning ν) {slots : List ν} (hn : slots.length = n) :
    ∀ {ts : List ValueType} {rs : List Reducer} {es : List Expr},
      retainArgs g n name ts rs = .ok es →
        values? m g slots ts rs = some (Expr.spellList (m.spelling slots) es)
  | t :: ts, r :: rs, es, h => by
    rw [values?_cons]
    obtain ⟨ht, hes⟩ | ⟨ht, e, es', he, hes, rfl⟩ := retainArgs_cons_eq_ok h
    · rw [if_pos ht, values?_of_retainArgs m hn hes]
    · rw [if_neg ht, value?_of_retain m hn he, values?_of_retainArgs m hn hes]
      rfl
  | [], rs, es, h => by
    cases rs <;> (cases h; rfl)
  | t :: ts, [], es, h => by
    cases h
    rfl

end

mutual

/-- What is retained of a reducer reads slots that are there. -/
theorem lt_of_mem_slots_of_retain :
    ∀ {r : Reducer} {e : Expr}, retain g n name r = .ok e → ∀ i ∈ e.slots, i < n
  | .slot j, e, h => by
    obtain ⟨hj, rfl⟩ := retain_slot_eq_ok h
    simpa [Expr.slots] using hj
  | .none, e, h => by
    cases h
    simp [Expr.slots]
  | .some inner, e, h => by
    obtain ⟨e', he', rfl⟩ := retain_some_eq_ok h
    rw [Expr.slots]
    exact lt_of_mem_slots_of_retain he'
  | .call method args, e, h => by
    obtain ⟨s, es, -, -, hes, rfl⟩ := retain_call_eq_ok h
    rw [Expr.slots]
    exact lt_of_mem_slots_of_retainArgs hes

/-- What is retained of several arguments reads slots that are there. -/
theorem lt_of_mem_slots_of_retainArgs :
    ∀ {ts : List ValueType} {rs : List Reducer} {es : List Expr},
      retainArgs g n name ts rs = .ok es → ∀ i ∈ Expr.slotsOfList es, i < n
  | t :: ts, r :: rs, es, h => by
    obtain ⟨-, hes⟩ | ⟨-, e, es', he, hes, rfl⟩ := retainArgs_cons_eq_ok h
    · exact lt_of_mem_slots_of_retainArgs hes
    · intro i hi
      rw [Expr.slotsOfList, List.mem_append] at hi
      rcases hi with hi | hi
      · exact lt_of_mem_slots_of_retain he i hi
      · exact lt_of_mem_slots_of_retainArgs hes i hi
  | [], rs, es, h => by
    cases rs <;> (cases h; simp [Expr.slotsOfList])
  | t :: ts, [], es, h => by
    cases h
    simp [Expr.slotsOfList]

end

mutual

/-- Erasing presence from the value of a reducer gives its value over the erased slots, where
presence leaves no trace. -/
theorem map_value? {m : Meaning ν} {m' : Meaning ν'} {f : ν → ν'} (hf : m.Erases m' f)
    (slots : List ν) : ∀ r : Reducer,
      (value? m g slots r).map f = value? m'.erased g (slots.map f) r
  | .slot i => by simp [value?]
  | .none => by simp [value?, hf.absent]
  | .some inner => by
    rw [value?, value?, ← map_value? hf slots inner, Option.map_map, Option.map_map]
    congr 1
    funext v
    exact hf.present v
  | .call method args => by
    rw [value?, value?]
    cases g.method? method with
    | none => rfl
    | some s =>
      by_cases hl : s.argumentTypes.length = args.length
      · simp only [hl, if_true]
        rw [← map_values? hf slots s.argumentTypes args, Option.map_map, Option.map_map]
        congr 1
        funext vs
        exact hf.result method vs
      · simp [hl]

/-- The same for the arguments of a call. -/
theorem map_values? {m : Meaning ν} {m' : Meaning ν'} {f : ν → ν'} (hf : m.Erases m' f)
    (slots : List ν) : ∀ (ts : List ValueType) (rs : List Reducer),
      (values? m g slots ts rs).map (List.map f) = values? m'.erased g (slots.map f) ts rs
  | t :: ts, r :: rs => by
    rw [values?_cons, values?_cons, ← map_value? hf slots r, ← map_values? hf slots ts rs]
    split
    · rfl
    · cases value? m g slots r with
      | none => rfl
      | some v => cases values? m g slots ts rs <;> rfl
  | [], rs => by cases rs <;> rfl
  | t :: ts, [] => by rfl

end

/-- Values that show how they were made, out of given ones. No method is interpreted. -/
inductive Datum where
  | given (index : Nat)
  | absent
  | present (inner : Datum)
  | result (method : String) (args : List Datum)

namespace Datum

/-- A meaning that keeps everything apart. -/
def meaning : Meaning Datum := ⟨absent, present, result⟩

mutual

/-- A value without any presence in it. -/
def erase : Datum → Datum
  | .given i => .given i
  | .absent => .absent
  | .present inner => inner.erase
  | .result method args => .result method (eraseList args)

/-- Several values without any presence in them. -/
def eraseList : List Datum → List Datum
  | [] => []
  | d :: rest => d.erase :: eraseList rest

end

theorem eraseList_eq_map (ds : List Datum) : eraseList ds = ds.map erase := by
  induction ds with
  | nil => rfl
  | cons d rest ih => rw [eraseList, ih, List.map_cons]

theorem erases_erase : meaning.Erases meaning erase where
  absent := by rw [meaning, erase]
  present v := by rw [meaning, erase]
  result method vs := by rw [meaning, erase, eraseList_eq_map]

end Datum

/-- What follows the compilation in a spelling is given the spelled expression and its slots. -/
theorem bind_compileIn {τ β : Type} (s : Spelling τ) (g : Declarations) (p : Production)
    (f : τ × List Nat → Except Fault β) :
    compileIn s g p >>= f = compile g p >>= fun e => f (e.spell s, slotsRead p e) := by
  rw [compileIn]
  cases compile g p <;> rfl

/-- A compiled reducer reads exactly the slots that its expression reads. -/
theorem mem_slotsRead {p : Production} {e : Expr} (h : compile g p = .ok e) {i : Nat} :
    i ∈ slotsRead p e ↔ i ∈ e.slots := by
  simp only [slotsRead, List.mem_filter, List.mem_range, List.contains_iff_mem]
  exact ⟨And.right, fun hi => ⟨lt_of_mem_slots_of_retain h i hi, hi⟩⟩

end ParserTables.Reduction
