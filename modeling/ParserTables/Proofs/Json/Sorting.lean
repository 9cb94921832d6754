import ParserTables.Document.Loading
import ParserTables.Proofs.Json.Rereading
import ParserTables.Proofs.Json.Yielding

/-!
# Reading a value as it is

A generic reader gives back the value whose text it reads, with the members of every object
sorted by their keys: `Tree.sorted`. What is lost is the order of the members and nothing else
(`exists_sortedMembers`), since no key is written twice.
-/

namespace ParserTables.Json

namespace Tree

mutual

/-- The value with the members of all its objects sorted. -/
def sorted : Tree → Tree
  | .array items => .array (sortedItems items)
  | .object members => .object (sortedMembers [] members)
  | .null => .null
  | .boolean b => .boolean b
  | .number n => .number n
  | .text s => .text s

/-- The items, each with its objects sorted. -/
def sortedItems : List Tree → List Tree
  | [] => []
  | t :: items => t.sorted :: sortedItems items

/-- The members put one after the other into an object that is sorted, each with its objects
sorted. -/
def sortedMembers (before : List (String × Tree)) : List (String × Tree) → List (String × Tree)
  | [] => before
  | (k, t) :: members => sortedMembers (insertMember k t.sorted before) members

end

theorem sortedItems_eq_map (items : List Tree) : sortedItems items = items.map sorted := by
  induction items with
  | nil => rfl
  | cons t items ih => rw [sortedItems, List.map_cons, ih]

/-! ### The order of the members -/

section Order

variable {ν : Type} (write : ν → Tree)

/-- The keys of the entries are in ascending order. -/
def Ascending (es : List (String × ν)) : Prop := es.Pairwise fun e f => e.1 < f.1

theorem ascending_nil : Ascending ([] : List (String × ν)) := List.Pairwise.nil

/-- A member with a new key is put into its place. -/
theorem exists_insertMember {es : List (String × ν)} (hes : Ascending es) {k : String} {v : ν}
    (hk : k ∉ es.map Prod.fst) :
    ∃ es', insertMember k (write v) (es.map fun e => (e.1, write e.2)) =
      es'.map (fun e => (e.1, write e.2)) ∧ es'.Perm ((k, v) :: es) ∧ Ascending es' := by
  induction es with
  | nil => exact ⟨[(k, v)], rfl, .refl _, List.pairwise_singleton _ _⟩
  | cons e es ih =>
      obtain ⟨hfirst, hes⟩ := List.pairwise_cons.1 hes
      rw [List.map_cons, List.mem_cons, not_or] at hk
      rw [List.map_cons, insertMember, if_neg hk.1]
      by_cases hlt : k < e.1
      · refine ⟨(k, v) :: e :: es, by rw [if_pos hlt]; rfl, .refl _, ?_⟩
        refine List.pairwise_cons.2 ⟨fun f hf => ?_, List.pairwise_cons.2 ⟨hfirst, hes⟩⟩
        rcases List.mem_cons.1 hf with rfl | hf
        · exact hlt
        · exact String.lt_trans hlt (hfirst f hf)
      · obtain ⟨es', hinsert, hperm, hasc⟩ := ih hes hk.2
        have hgt : e.1 < k :=
          String.not_le.1 fun hle => hk.1 (String.le_antisymm hle (String.not_lt.1 hlt))
        refine ⟨e :: es', by rw [if_neg hlt, hinsert]; rfl, ?_, ?_⟩
        · exact (hperm.cons e).trans (.swap _ _ _)
        · refine List.pairwise_cons.2 ⟨fun f hf => ?_, hasc⟩
          rcases List.mem_cons.1 (hperm.mem_iff.1 hf) with rfl | hf
          · exact hgt
          · exact hfirst f hf

/-- Members with distinct keys are rearranged, so that their keys ascend. -/
theorem exists_sortedMembers {entries before : List (String × ν)} (hbefore : Ascending before)
    (hdistinct : ((before ++ entries).map Prod.fst).Nodup) :
    ∃ es, sortedMembers (before.map fun e => (e.1, (write e.2).sorted))
        (entries.map fun e => (e.1, write e.2)) = es.map (fun e => (e.1, (write e.2).sorted)) ∧
      es.Perm (before ++ entries) ∧ Ascending es := by
  induction entries generalizing before with
  | nil => exact ⟨before, rfl, by rw [List.append_nil], hbefore⟩
  | cons e entries ih =>
      have hfresh : e.1 ∉ before.map Prod.fst := by
        rw [List.map_append, List.map_cons, List.nodup_append] at hdistinct
        exact fun hmem => hdistinct.2.2 e.1 hmem e.1 List.mem_cons_self rfl
      obtain ⟨before', hinsert, hperm, hasc⟩ :=
        exists_insertMember (fun v => (write v).sorted) hbefore (v := e.2) hfresh
      have hperm' : (before' ++ entries).Perm (before ++ e :: entries) :=
        (hperm.append_right entries).trans List.perm_middle.symm
      obtain ⟨es, hsorted, hes, hasc'⟩ :=
        ih hasc ((hperm'.map Prod.fst).nodup_iff.2 hdistinct)
      exact ⟨es, by rw [List.map_cons, sortedMembers, hinsert, hsorted], hes.trans hperm', hasc'⟩

end Order

/-! ### Depth -/

theorem depth_sorted_lt_of_mem_items {t : Tree} {items : List Tree} (h : t ∈ items) :
    t.sorted.depth < (array items).sorted.depth := by
  rw [sorted, sortedItems_eq_map]
  exact depth_lt_of_mem_items (List.mem_map_of_mem h)

theorem depth_sorted_lt_of_mem_members {k : String} {t : Tree} {members : List (String × Tree)}
    (hdistinct : (members.map Prod.fst).Nodup) (h : (k, t) ∈ members) :
    t.sorted.depth < (object members).sorted.depth := by
  obtain ⟨es, hsorted, hperm, -⟩ :=
    exists_sortedMembers id ascending_nil hdistinct
  have hmembers : members.map (fun e => (e.1, id e.2)) = members := List.map_id members
  rw [hmembers] at hsorted
  rw [sorted]
  refine depth_lt_of_mem_members (k := k) ?_
  exact hsorted ▸ List.mem_map_of_mem (f := fun e : String × Tree => (e.1, e.2.sorted))
    (hperm.mem_iff.2 h)

end Tree

/-! ### The generic reader -/

namespace Reader

/-- What the generic reader does with a member of an object. -/
def treeMember (inner : Reader Tree) (ms : List (String × Tree)) (key : String) :
    Reader (List (String × Tree)) := fun ts => do
  let ts ← afterColon ts
  let (t, ts) ← inner ts
  return (Tree.insertMember key t ms, ts)

theorem treeOver_openBracket (inner : Reader Tree) (ts : List Token) :
    treeOver (some inner) (.openBracket :: ts) = (do
      let (items, rest) ← items inner (.openBracket :: ts) true ts
      let rest ← endArray rest
      return (.array items, rest)) := rfl

theorem treeOver_openBrace (inner : Reader Tree) (ts : List Token) :
    treeOver (some inner) (.openBrace :: ts) = (do
      let (ms, rest) ← members (treeMember inner) (.openBrace :: ts) true [] ts
      let rest ← endObject rest
      return (.object ms, rest)) := rfl

mutual

/-- Within a budget that allows for its depth, a value is read as this value, sorted. -/
theorem finds_tree {budget : Nat} :
    (t : Tree) → t.depth ≤ budget → Finds (Reader.tree budget) t t.sorted
  | .null, _ | .boolean _, _ | .number _, _ | .text _, _ => fun _ => by cases budget <;> rfl
  | .array items, hdepth => by
      intro rest
      obtain ⟨b, rfl, hb⟩ := Decoder.exists_budget_of_depth hdepth
      rw [Tree.tokensBefore_array, Reader.tree, treeOver_openBracket,
        items_arrayTokens (finds_items items hb)]
      rfl
  | .object members, hdepth => by
      intro rest
      obtain ⟨b, rfl, hb⟩ := Decoder.exists_budget_of_depth hdepth
      rw [Tree.tokensBefore_object, Reader.tree, treeOver_openBrace,
        members_objectTokens (threads_members [] members hb)]
      rfl

theorem finds_items {budget : Nat} :
    (items : List Tree) → Tree.depthOfItems items ≤ budget →
      List.Forall₂ (Finds (Reader.tree budget)) items (Tree.sortedItems items)
  | [], _ => .nil
  | t :: items, hdepth =>
      .cons (finds_tree t (Nat.max_le.1 hdepth).1) (finds_items items (Nat.max_le.1 hdepth).2)

theorem threads_members {budget : Nat} (before : List (String × Tree)) :
    (members : List (String × Tree)) → Tree.depthOfMembers members ≤ budget →
      Threads (treeMember (Reader.tree budget)) before members
        (Tree.sortedMembers before members)
  | [], _ => .nil before
  | (k, t) :: members, hdepth => by
      refine .cons (fun rest => ?_) (threads_members _ members (Nat.max_le.1 hdepth).2)
      have ht := finds_tree t (Nat.max_le.1 hdepth).1 rest
      simp only [treeMember, afterColon, bind, Except.bind, ht]
      rfl

end

end Reader

/-- The text of a value is read as the value, sorted. -/
theorem readTree_write {t : Tree} (h : t.Within Reader.levels) :
    Document.readTree t.write = .ok t.sorted := by
  rw [Document.readTree, tokens_write h.1, Reader.whole, Reader.finds_tree t h.2 []]
  rfl

end ParserTables.Json
