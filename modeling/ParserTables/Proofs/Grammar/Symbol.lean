import Mathlib.Data.List.Basic
import ParserTables.Grammar.Symbol

/-!
# Nonterminals that are told apart by grammar notation

The notation of a nonterminal says which one it is as long as its name holds no opening bracket and
its parameters hold no comma. Without this, a name can be written like a nonterminal with
parameters, and a parameter like several.
-/

namespace ParserTables.Grammar

section Splitting

variable {α : Type} {d : α}

/-- A list is split in one way in front of the first `d`. -/
theorem append_inj_of_head {as bs xs ys : List α} (ha : d ∉ as) (hb : d ∉ bs)
    (hx : ∀ x ∈ xs.head?, x = d) (hy : ∀ y ∈ ys.head?, y = d) (h : as ++ xs = bs ++ ys) :
    as = bs ∧ xs = ys := by
  induction as generalizing bs with
  | nil =>
      cases bs with
      | nil => exact ⟨rfl, h⟩
      | cons b bs =>
          obtain rfl : xs = b :: (bs ++ ys) := h
          exact absurd (hx b rfl) (List.ne_of_not_mem_cons hb).symm
  | cons a as ih =>
      cases bs with
      | nil =>
          obtain rfl : a :: (as ++ xs) = ys := h
          exact absurd (hy a rfl) (List.ne_of_not_mem_cons ha).symm
      | cons b bs =>
          obtain ⟨rfl, hrest⟩ := List.cons.inj h
          obtain ⟨rfl, hxy⟩ :=
            ih (List.not_mem_of_not_mem_cons ha) (List.not_mem_of_not_mem_cons hb) hrest
          exact ⟨rfl, hxy⟩

theorem head?_flatMap_separated {sep : List α} (as : List (List α)) :
    ∀ x ∈ (as.flatMap fun a => d :: (sep ++ a)).head?, x = d := by
  cases as <;> simp

/-- Parts without a `d` are found again behind separators that start with it. -/
theorem flatMap_separated_inj {sep : List α} {as bs : List (List α)} (ha : ∀ a ∈ as, d ∉ a)
    (hb : ∀ b ∈ bs, d ∉ b)
    (h : (as.flatMap fun a => d :: (sep ++ a)) = bs.flatMap fun b => d :: (sep ++ b)) :
    as = bs := by
  induction as generalizing bs with
  | nil =>
      cases bs with
      | nil => rfl
      | cons b bs => simp at h
  | cons a as ih =>
      cases bs with
      | nil => simp at h
      | cons b bs =>
          rw [List.forall_mem_cons] at ha hb
          simp only [List.flatMap_cons, List.cons_append, List.append_assoc, List.cons.injEq,
            true_and, List.append_cancel_left_eq] at h
          obtain ⟨rfl, hrest⟩ := append_inj_of_head ha.1 hb.1 (head?_flatMap_separated as)
            (head?_flatMap_separated bs) h
          rw [ih ha.2 hb.2 hrest]

theorem intercalate_cons (sep a : List α) (as : List (List α)) :
    sep.intercalate (a :: as) = a ++ as.flatMap fun b => sep ++ b := by
  induction as generalizing a with
  | nil => simp
  | cons b as ih => simp [List.intercalate_cons_cons, ih]

theorem intercalate_inj {sep : List α} {as bs : List (List α)} (ha : ∀ a ∈ as, d ∉ a)
    (hb : ∀ b ∈ bs, d ∉ b) (hna : as ≠ []) (hnb : bs ≠ [])
    (h : (d :: sep).intercalate as = (d :: sep).intercalate bs) : as = bs := by
  obtain ⟨a, as, rfl⟩ := List.exists_cons_of_ne_nil hna
  obtain ⟨b, bs, rfl⟩ := List.exists_cons_of_ne_nil hnb
  rw [List.forall_mem_cons] at ha hb
  rw [intercalate_cons, intercalate_cons] at h
  obtain ⟨rfl, hrest⟩ := append_inj_of_head ha.1 hb.1 (head?_flatMap_separated as)
    (head?_flatMap_separated bs) h
  rw [flatMap_separated_inj ha.2 hb.2 hrest]

end Splitting

namespace Nonterminal

/-- A name without an opening bracket, and parameters without a comma. -/
def IsSimple (nt : Nonterminal) : Prop :=
  '[' ∉ nt.name.toList ∧ ∀ arg ∈ nt.args, ',' ∉ arg.1.toList

theorem toList_signedArg (arg : String × Bool) :
    (signedArg arg).toList = (if arg.2 then '+' else '~') :: arg.1.toList := by
  cases h : arg.2 <;> simp [signedArg, h]

theorem signedArg_injective : Function.Injective signedArg := by
  intro arg arg' h
  have hlist := congrArg String.toList h
  rw [toList_signedArg, toList_signedArg] at hlist
  obtain ⟨hsign, hname⟩ := List.cons.inj hlist
  refine Prod.ext (String.toList_inj.1 hname) ?_
  revert hsign
  cases arg.2 <;> cases arg'.2 <;> simp

/-- The parameters in brackets. -/
def bracketed (args : List (String × Bool)) : List Char :=
  if args.isEmpty then []
  else '[' :: ([',', ' '].intercalate (args.map fun arg => (signedArg arg).toList) ++ [']'])

theorem toList_pretty (nt : Nonterminal) :
    nt.pretty.toList = nt.name.toList ++ bracketed nt.args := by
  unfold pretty bracketed
  split
  · simp
  · simp [String.toList_intercalate, Function.comp_def]

theorem bracketed_inj {args args' : List (String × Bool)} (h : ∀ arg ∈ args, ',' ∉ arg.1.toList)
    (h' : ∀ arg ∈ args', ',' ∉ arg.1.toList) (heq : bracketed args = bracketed args') :
    args = args' := by
  have hcomma : ∀ args : List (String × Bool), (∀ arg ∈ args, ',' ∉ arg.1.toList) →
      ∀ cs ∈ args.map fun arg => (signedArg arg).toList, ',' ∉ cs := by
    intro args h
    rw [List.forall_mem_map]
    intro arg harg
    rw [toList_signedArg, List.mem_cons, not_or]
    exact ⟨by split <;> decide, h arg harg⟩
  cases args with
  | nil =>
      cases args' with
      | nil => rfl
      | cons arg' args' => simp [bracketed] at heq
  | cons arg args =>
      cases args' with
      | nil => simp [bracketed] at heq
      | cons arg' args' =>
          have hjoin :
              [',', ' '].intercalate ((arg :: args).map fun arg => (signedArg arg).toList) =
              [',', ' '].intercalate ((arg' :: args').map fun arg => (signedArg arg).toList) := by
            simpa [bracketed] using heq
          have hmap := intercalate_inj (hcomma _ h) (hcomma _ h') (by simp) (by simp) hjoin
          have hinj : Function.Injective fun arg : String × Bool => (signedArg arg).toList :=
            fun _ _ heq => signedArg_injective (String.toList_inj.1 heq)
          exact List.map_injective_iff.2 hinj hmap

/-- The notation tells simple nonterminals apart. -/
theorem pretty_inj_of_isSimple {nt nt' : Nonterminal} (h : nt.IsSimple) (h' : nt'.IsSimple)
    (heq : nt.pretty = nt'.pretty) : nt = nt' := by
  have hhead : ∀ args, ∀ c ∈ (bracketed args).head?, c = '[' := by
    intro args
    unfold bracketed
    split <;> simp
  have hlist := congrArg String.toList heq
  rw [toList_pretty, toList_pretty] at hlist
  obtain ⟨hname, hargs⟩ := append_inj_of_head h.1 h'.1 (hhead _) (hhead _) hlist
  obtain ⟨name, args⟩ := nt
  obtain ⟨name', args'⟩ := nt'
  obtain rfl := String.toList_inj.1 hname
  obtain rfl := bracketed_inj h.2 h'.2 hargs
  rfl

end Nonterminal

end ParserTables.Grammar
