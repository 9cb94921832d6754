import Mathlib.Data.List.Basic
import Mathlib.Data.List.Induction
import ParserTables.OrderedMap

/-!
# First appearances

The list of first appearances holds the elements of a list once each, in the order of the places
at which they first stand. What it does with a further element depends only on whether the element
has appeared, so it can be followed along the list.
-/

namespace ParserTables

variable {α : Type} [DecidableEq α]

theorem firstAppearances_congr {seen seen' as : List α} (h : ∀ a, a ∈ seen ↔ a ∈ seen') :
    firstAppearances seen as = firstAppearances seen' as := by
  induction as generalizing seen seen' with
  | nil => rfl
  | cons a as ih =>
      have hcons : ∀ b, b ∈ a :: seen ↔ b ∈ a :: seen' := by simp [h]
      simp only [firstAppearances, h a, ih h, ih hcons]

theorem firstAppearances_append (seen as bs : List α) :
    firstAppearances seen (as ++ bs) =
      firstAppearances seen as ++ firstAppearances (seen ++ as) bs := by
  induction as generalizing seen with
  | nil => simp [firstAppearances]
  | cons a as ih =>
      rw [List.cons_append, firstAppearances, firstAppearances]
      split
      · next ha =>
          rw [ih]
          congr 1
          exact firstAppearances_congr fun b => by
            simp only [List.mem_append, List.mem_cons]
            grind
      · rw [ih, List.cons_append]
        congr 2
        exact firstAppearances_congr fun b => by
          simp only [List.mem_append, List.mem_cons]
          grind

theorem firstAppearances_append_singleton (as : List α) (a : α) :
    firstAppearances [] (as ++ [a]) =
      if a ∈ as then firstAppearances [] as else firstAppearances [] as ++ [a] := by
  rw [firstAppearances_append]
  split
  · next ha => simp [firstAppearances, ha]
  · next ha => simp [firstAppearances, ha]

/-- An element is listed before another one exactly if it first stands before it. -/
theorem pairwise_idxOf_firstAppearances (as : List α) :
    (firstAppearances [] as).Pairwise fun a b => as.idxOf a < as.idxOf b := by
  induction as using List.reverseRecOn with
  | nil => simp [firstAppearances]
  | append_singleton as a ih =>
      have hidx : ∀ b ∈ firstAppearances [] as, (as ++ [a]).idxOf b = as.idxOf b := fun b hb =>
        List.idxOf_append_of_mem (mem_firstAppearances.1 hb).1
      have hearlier : (firstAppearances [] as).Pairwise fun b c =>
          (as ++ [a]).idxOf b < (as ++ [a]).idxOf c :=
        ih.imp_of_mem fun hb hc h => by rwa [hidx _ hb, hidx _ hc]
      rw [firstAppearances_append_singleton]
      split
      · exact hearlier
      · next ha =>
          refine List.pairwise_append.2 ⟨hearlier, by simp, fun b hb c hc => ?_⟩
          obtain rfl := List.mem_singleton.1 hc
          rw [hidx b hb, List.idxOf_append_of_notMem ha]
          exact Nat.lt_add_right _ (List.idxOf_lt_length_iff.2 (mem_firstAppearances.1 hb).1)

/-- The second list holds the elements of the first one once each, in the order in which they first
stand there. -/
structure ListsAppearances (as bs : List α) : Prop where
  nodup : bs.Nodup
  mem_iff : ∀ a, a ∈ bs ↔ a ∈ as
  ordered : bs.Pairwise fun a b => as.idxOf a < as.idxOf b

theorem listsAppearances_firstAppearances (as : List α) :
    ListsAppearances as (firstAppearances [] as) where
  nodup := nodup_firstAppearances _ _
  mem_iff _ := by simp [mem_firstAppearances]
  ordered := pairwise_idxOf_firstAppearances as

end ParserTables
