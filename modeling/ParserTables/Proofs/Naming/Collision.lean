import Mathlib.Data.List.Nodup
import ParserTables.Naming.Collision
import ParserTables.Proofs.Failure
import ParserTables.Proofs.FirstAppearances

/-!
# Collisions that are found

When the search for a collision finds one, and which one. The search goes through a list with the
names that it has seen, and keeps the invariant that the elements before the current one are apart:
so there is at most one of them with the name of the current one. A list without repetitions has
no collision exactly if its elements are apart, and otherwise the earliest one is found.
-/

namespace ParserTables.Naming

variable {α : Type} {name : α → String}

/-- Different elements of the list have different names. An element may occur several times. -/
def Apart (name : α → String) (as : List α) : Prop :=
  ∀ a ∈ as, ∀ b ∈ as, name a = name b → a = b

/-- The earliest element of the list that has the name of a different element before it, together
with that one and their name. -/
def Collision.Earliest (name : α → String) (as : List α) (c : Collision α) : Prop :=
  ∃ before after, as = before ++ c.second :: after ∧ Apart name before ∧ c.first ∈ before ∧
    c.first ≠ c.second ∧ name c.first = c.name ∧ name c.second = c.name

theorem apart_nil : Apart name [] := by simp [Apart]

theorem apart_append_singleton {as : List α} {a : α} (h : Apart name as)
    (ha : ∀ b ∈ as, name b ≠ name a) : Apart name (as ++ [a]) := by
  intro b hb c hc heq
  rw [List.mem_append, List.mem_singleton] at hb hc
  rcases hb with hb | rfl <;> rcases hc with hc | rfl
  · exact h b hb c hc heq
  · exact absurd heq (ha b hb)
  · exact absurd heq.symm (ha c hc)
  · rfl

theorem Collision.Earliest.not_apart {as : List α} {c : Collision α} (h : c.Earliest name as) :
    ¬ Apart name as := by
  obtain ⟨before, after, rfl, -, hmem, hne, hfirst, hsecond⟩ := h
  intro hap
  exact hne (hap _ (by simp [hmem]) _ (by simp) (hfirst.trans hsecond.symm))

theorem length_le_of_apart {before before' after after' : List α} {a b b' : α}
    (heq : before ++ b :: after = before' ++ b' :: after') (ha : a ∈ before) (hne : a ≠ b)
    (hname : name a = name b) (h : Apart name before') : before'.length ≤ before.length := by
  by_contra hlt
  have hpre : before ++ [b] <+: before' :=
    List.prefix_of_prefix_length_le ⟨after, by simp⟩ ⟨b' :: after', heq.symm⟩ (by
      rw [List.length_append]
      exact Nat.lt_of_not_le hlt)
  exact hne (h a (hpre.subset (by simp [ha])) b (hpre.subset (by simp)) hname)

/-- There is one earliest collision: elements that are apart hold no collision, so none stands in
front of the second element of another. -/
theorem Collision.Earliest.unique {as : List α} {c d : Collision α} (hc : c.Earliest name as)
    (hd : d.Earliest name as) : c = d := by
  obtain ⟨first, second, n⟩ := c
  obtain ⟨first', second', n'⟩ := d
  obtain ⟨before, after, rfl, hap, hmem, hne, hfirst, hsecond⟩ := hc
  obtain ⟨before', after', heq, hap', hmem', hne', hfirst', hsecond'⟩ := hd
  dsimp only at *
  have hlen : before.length = before'.length :=
    Nat.le_antisymm (length_le_of_apart heq.symm hmem' hne' (hfirst'.trans hsecond'.symm) hap)
      (length_le_of_apart heq hmem hne (hfirst.trans hsecond.symm) hap')
  obtain ⟨rfl, hrest⟩ := List.append_inj heq hlen
  obtain ⟨rfl, -⟩ := List.cons.inj hrest
  obtain rfl : n = n' := hsecond.symm.trans hsecond'
  obtain rfl : first = first' := hap first hmem first' hmem' (hfirst.trans hfirst'.symm)
  rfl

/-! ### The search -/

/-- The elements of a list with their names, as the search keeps them. -/
def seenOf (name : α → String) (as : List α) : List (String × α) := as.map fun a => (name a, a)

theorem seenOf_append_singleton (as : List α) (a : α) :
    seenOf name (as ++ [a]) = seenOf name as ++ [(name a, a)] := by
  simp [seenOf]

theorem mem_of_lookup_seenOf {as : List α} {n : String} {a : α}
    (h : (seenOf name as).lookup n = some a) : a ∈ as ∧ name a = n := by
  obtain ⟨before, after, heq, -⟩ := List.lookup_eq_some_iff.1 h
  have hmem : (n, a) ∈ seenOf name as := heq ▸ List.mem_append_right _ List.mem_cons_self
  obtain ⟨b, hb, hpair⟩ := List.mem_map.1 hmem
  cases hpair
  exact ⟨hb, rfl⟩

theorem lookup_seenOf_eq_none_iff {as : List α} {n : String} :
    (seenOf name as).lookup n = none ↔ ∀ a ∈ as, name a ≠ n := by
  rw [List.lookup_eq_none_iff, seenOf, List.forall_mem_map]
  simp only [bne_iff_ne, ne_comm]

/-- The search from the middle of a list, when the elements so far are apart. -/
theorem collisionAfter_seenOf (before : List α) {as : List α} (hnodup : (before ++ as).Nodup)
    (hap : Apart name before) :
    (collisionAfter name (seenOf name before) as = none → Apart name (before ++ as)) ∧
      ∀ c, collisionAfter name (seenOf name before) as = some c →
        c.Earliest name (before ++ as) := by
  induction as generalizing before with
  | nil => simp [collisionAfter, hap]
  | cons a as ih =>
      rw [collisionAfter]
      cases hl : (seenOf name before).lookup (name a) with
      | some b =>
          obtain ⟨hb, hname⟩ := mem_of_lookup_seenOf hl
          refine ⟨by simp, fun c hc => ?_⟩
          cases Option.some.inj hc
          have hne : b ≠ a := fun h => (List.nodup_append.1 hnodup).2.2 b hb a (by simp) h
          exact ⟨before, as, rfl, hap, hb, hne, hname, rfl⟩
      | none =>
          dsimp only
          rw [← seenOf_append_singleton]
          rw [List.append_cons before a as] at hnodup ⊢
          exact ih _ hnodup (apart_append_singleton hap (lookup_seenOf_eq_none_iff.1 hl))

section Distinct

variable {as : List α} (hnodup : as.Nodup)

include hnodup

theorem collision?_eq_none_iff : collision? name as = none ↔ Apart name as := by
  obtain ⟨hnone, hsome⟩ := collisionAfter_seenOf [] hnodup (@apart_nil α name)
  refine ⟨hnone, fun hap => ?_⟩
  cases h : collision? name as with
  | none => rfl
  | some c => exact absurd hap (hsome c h).not_apart

theorem collision?_eq_some_iff {c : Collision α} :
    collision? name as = some c ↔ c.Earliest name as := by
  obtain ⟨hnone, hsome⟩ := collisionAfter_seenOf [] hnodup (@apart_nil α name)
  refine ⟨hsome c, fun hc => ?_⟩
  cases h : collision? name as with
  | none => exact absurd (hnone h) hc.not_apart
  | some d => rw [(hsome d h).unique hc]

variable (display : α → String) (fault : Clash → Fault)

theorem distinct_eq_ok_iff : distinct name display fault as = .ok () ↔ Apart name as := by
  rw [← collision?_eq_none_iff hnodup, distinct]
  cases collision? name as <;> simp

theorem distinct_eq_error_iff {f : Fault} :
    distinct name display fault as = .error f ↔
      ∃ c : Collision α, c.Earliest name as ∧ f = fault (c.clash display) := by
  simp only [← collision?_eq_some_iff hnodup, distinct]
  cases collision? name as <;> simp [eq_comm]

end Distinct

/-! ### Lists with repetitions -/

theorem apart_firstAppearances_iff [DecidableEq α] {as : List α} :
    Apart name (firstAppearances [] as) ↔ Apart name as := by
  simp [Apart, mem_firstAppearances]

/-- What collides among the first appearances collides in the list itself, and at the earliest: up
to the place where its second element first stands, the list has the same elements as its first
appearances. -/
theorem Collision.Earliest.of_firstAppearances [DecidableEq α] {as : List α} {c : Collision α}
    (h : c.Earliest name (firstAppearances [] as)) : c.Earliest name as := by
  obtain ⟨before, after, heq, hap, hmem, hne, hfirst, hsecond⟩ := h
  have hin : c.second ∈ as :=
    (mem_firstAppearances.1 (heq ▸ List.mem_append_right before List.mem_cons_self)).1
  obtain ⟨before', after', rfl, hnot⟩ := List.eq_append_cons_of_mem hin
  have hsplit : firstAppearances [] (before' ++ c.second :: after') =
      firstAppearances [] before' ++
        c.second :: firstAppearances (c.second :: ([] ++ before')) after' := by
    rw [firstAppearances_append, firstAppearances, if_neg (by simpa using hnot)]
  have hnodup : (before ++ c.second :: after).Nodup := heq ▸ nodup_firstAppearances _ _
  obtain ⟨hbefore, hafter⟩ : c.second ∉ before ∧ c.second ∉ after := by
    simpa [not_or] using (List.nodup_middle.1 hnodup).notMem
  obtain ⟨rfl, -⟩ :=
    (List.append_cons_inj_of_notMem hbefore hafter).1 (heq.symm.trans hsplit)
  exact ⟨before', after', rfl, apart_firstAppearances_iff.1 hap, (mem_firstAppearances.1 hmem).1,
    hne, hfirst, hsecond⟩

theorem Collision.earliest_firstAppearances_iff [DecidableEq α] {as : List α}
    {c : Collision α} : c.Earliest name (firstAppearances [] as) ↔ c.Earliest name as := by
  refine ⟨Earliest.of_firstAppearances, fun h => ?_⟩
  -- The first appearances are not apart either, and their earliest collision is no other one.
  cases hd : collision? name (firstAppearances [] as) with
  | none =>
      rw [collision?_eq_none_iff (nodup_firstAppearances _ _), apart_firstAppearances_iff] at hd
      exact absurd hd h.not_apart
  | some d =>
      rw [collision?_eq_some_iff (nodup_firstAppearances _ _)] at hd
      rwa [h.unique hd.of_firstAppearances]

end ParserTables.Naming
