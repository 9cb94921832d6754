import Mathlib
import ParserTables.Proofs.Compiled.Propagation
import ParserTables.Proofs.Document.Types
import ParserTables.Proofs.Text.Code

/-!
# Spellings are read in one way

The spelling of a written type is a name with the spellings of the arguments in angle brackets.
Unless a name has a bracket or a comma itself, each name ends at the first such sign, and whether
the name has arguments, or what comes after it, is seen from this sign. So the spelling determines
the written type, whatever text goes on behind it with a comma or a closing bracket
(`spelling_append_inj`).
-/

namespace ParserTables.Grammar.WrittenType

open ParserTables.Text

/-- A sign that ends a name. -/
def IsSign (c : Char) : Prop := c ∈ ['<', '>', ',']

/-- No name in the written type has a sign. -/
def SignFree (t : WrittenType) : Prop := ∀ node ∈ t.nodes, ∀ c ∈ node.name.toList, ¬ IsSign c

/-- A text that goes on with a sign, if it goes on, but not with arguments. -/
def Closes (rest : List Char) : Prop := ∀ c ∈ rest.head?, c ∈ ['>', ',']

/-- The spellings of arguments that come after another one. -/
def furtherSpelled (args : List WrittenType) : List Char :=
  args.flatMap fun arg => ',' :: ' ' :: arg.spelling.toList

/-- What stands behind the name: the spellings of the arguments in brackets, if there are any. -/
def bracketed : List WrittenType → List Char
  | [] => []
  | arg :: args => '<' :: (arg.spelling.toList ++ furtherSpelled args ++ ['>'])

theorem spellings_eq_map (ts : List WrittenType) : spellings ts = ts.map spelling := by
  induction ts with
  | nil => rfl
  | cons t ts ih => rw [spellings, ih, List.map_cons]

theorem toList_spelling (name : String) (args : List WrittenType) :
    (spelling (.mk name args)).toList = name.toList ++ bracketed args := by
  cases args with
  | nil => simp [spelling, spellings, applied, bracketed]
  | cons arg args =>
      rw [spelling, spellings_eq_map, List.map_cons, applied, intercalate_cons_eq_append_join]
      simp [bracketed, furtherSpelled, List.flatMap_map]

theorem closes_nil : Closes [] := by simp [Closes]

theorem closes_furtherSpelled (args : List WrittenType) (rest : List Char) :
    Closes (furtherSpelled args ++ '>' :: rest) := by
  cases args with
  | nil => simp [Closes, furtherSpelled]
  | cons arg args => simp [Closes, furtherSpelled]

theorem isSign_of_mem_head?_bracketed {rest : List Char} (h : Closes rest)
    (args : List WrittenType) : ∀ c ∈ (bracketed args ++ rest).head?, IsSign c := by
  cases args with
  | nil => exact fun c hc => List.mem_cons_of_mem _ (h c hc)
  | cons arg args => simp [bracketed, IsSign]

theorem mem_nodesOfList {node : WrittenType} {ts : List WrittenType} :
    node ∈ nodesOfList ts ↔ ∃ t ∈ ts, node ∈ t.nodes := by
  induction ts with
  | nil => simp [nodesOfList]
  | cons t ts ih => simp [nodesOfList, ih]

theorem signFree_mk_iff {name : String} {args : List WrittenType} :
    (WrittenType.mk name args).SignFree ↔
      (∀ c ∈ name.toList, ¬ IsSign c) ∧ ∀ arg ∈ args, arg.SignFree := by
  rw [SignFree, nodes, List.forall_mem_cons]
  refine and_congr_right fun _ => ⟨fun h arg harg node hnode => ?_, fun h node hnode => ?_⟩
  · exact h node (mem_nodesOfList.2 ⟨arg, harg, hnode⟩)
  · obtain ⟨arg, harg, hnode⟩ := mem_nodesOfList.1 hnode
    exact h arg harg node hnode

mutual

/-- A spelling in front of a text determines the written type and the text. -/
theorem spelling_append_inj : ∀ {s t : WrittenType} {rest rest' : List Char},
    s.SignFree → t.SignFree →
      Closes rest → Closes rest' → s.spelling.toList ++ rest = t.spelling.toList ++ rest' →
        s = t ∧ rest = rest'
  | .mk name args, .mk name' args', rest, rest', hs, ht, hrest, hrest', h => by
      rw [signFree_mk_iff] at hs ht
      rw [toList_spelling, toList_spelling, List.append_assoc, List.append_assoc] at h
      have hname : name.toList = name'.toList :=
        eq_of_append_of_opens hs.1 ht.1 (isSign_of_mem_head?_bracketed hrest args)
          (isSign_of_mem_head?_bracketed hrest' args') h
      rw [hname] at h
      obtain ⟨rfl, hrests⟩ :=
        bracketed_append_inj hs.2 ht.2 hrest hrest' (List.append_cancel_left h)
      exact ⟨by rw [String.toList_injective hname], hrests⟩

theorem bracketed_append_inj : ∀ {ss ts : List WrittenType} {rest rest' : List Char},
    (∀ s ∈ ss, s.SignFree) → (∀ t ∈ ts, t.SignFree) →
      Closes rest → Closes rest' → bracketed ss ++ rest = bracketed ts ++ rest' →
        ss = ts ∧ rest = rest'
  | [], [], rest, rest', hs, ht, hrest, hrest', h => ⟨rfl, h⟩
  | [], t :: ts, rest, rest', hs, ht, hrest, hrest', h => by
      -- Arguments would begin with a bracket that the text does not go on with.
      subst h
      simp [Closes, bracketed] at hrest
  | s :: ss, [], rest, rest', hs, ht, hrest, hrest', h => by
      subst h
      simp [Closes, bracketed] at hrest'
  | s :: ss, t :: ts, rest, rest', hs, ht, hrest, hrest', h => by
      rw [List.forall_mem_cons] at hs ht
      simp only [bracketed, List.cons_append, List.append_assoc, List.cons.injEq, true_and] at h
      obtain ⟨rfl, hmore⟩ := spelling_append_inj hs.1 ht.1 (closes_furtherSpelled ss rest)
        (closes_furtherSpelled ts rest') h
      obtain ⟨rfl, hrests⟩ := furtherSpelled_append_inj hs.2 ht.2 hmore
      exact ⟨rfl, hrests⟩

theorem furtherSpelled_append_inj : ∀ {ss ts : List WrittenType} {rest rest' : List Char},
    (∀ s ∈ ss, s.SignFree) → (∀ t ∈ ts, t.SignFree) →
      furtherSpelled ss ++ '>' :: rest = furtherSpelled ts ++ '>' :: rest' →
        ss = ts ∧ rest = rest'
  | [], [], rest, rest', hs, ht, h => ⟨rfl, (List.cons.inj h).2⟩
  | [], t :: ts, rest, rest', hs, ht, h => by simp [furtherSpelled] at h
  | s :: ss, [], rest, rest', hs, ht, h => by simp [furtherSpelled] at h
  | s :: ss, t :: ts, rest, rest', hs, ht, h => by
      rw [List.forall_mem_cons] at hs ht
      simp only [furtherSpelled, List.flatMap_cons, List.cons_append, List.append_assoc,
        List.cons.injEq, true_and] at h
      obtain ⟨rfl, hmore⟩ := spelling_append_inj hs.1 ht.1 (closes_furtherSpelled ss rest)
        (closes_furtherSpelled ts rest') h
      obtain ⟨rfl, hrests⟩ := furtherSpelled_append_inj hs.2 ht.2 hmore
      exact ⟨rfl, hrests⟩

end

theorem spelling_inj {s t : WrittenType} (hs : s.SignFree) (ht : t.SignFree)
    (h : s.spelling = t.spelling) : s = t :=
  (spelling_append_inj hs ht closes_nil closes_nil (congrArg (·.toList ++ []) h)).1

end ParserTables.Grammar.WrittenType
