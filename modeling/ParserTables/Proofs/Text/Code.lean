import Mathlib.InformationTheory.Coding.UniquelyDecodable
import Mathlib.Data.List.Basic

/-!
# Codes that are read in one way

Code words that are written one after the other determine the words if the first of them is always
known. Two reasons for that: no code word is the beginning of another one, or every code word
begins with a sign that stands nowhere else in it.
-/

namespace ParserTables.Text

open InformationTheory

variable {α : Type}

theorem uniquelyDecodable_of_first {S : Set (List α)} (hnil : [] ∉ S)
    (hfirst : ∀ u ∈ S, ∀ v ∈ S, ∀ us vs : List (List α), (∀ w ∈ us, w ∈ S) → (∀ w ∈ vs, w ∈ S) →
      u ++ us.flatten = v ++ vs.flatten → u = v) : UniquelyDecodable S := by
  intro us
  induction us with
  | nil =>
      intro vs _ hvs h
      cases vs with
      | nil => rfl
      | cons v vs =>
          have hv : v = [] := List.flatten_eq_nil_iff.1 h.symm v List.mem_cons_self
          exact absurd (hv ▸ hvs v List.mem_cons_self) hnil
  | cons u us ih =>
      intro vs hus hvs h
      cases vs with
      | nil =>
          have hu : u = [] := List.flatten_eq_nil_iff.1 h u List.mem_cons_self
          exact absurd (hu ▸ hus u List.mem_cons_self) hnil
      | cons v vs =>
          rw [List.forall_mem_cons] at hus hvs
          rw [List.flatten_cons, List.flatten_cons] at h
          obtain rfl : u = v := hfirst u hus.1 v hvs.1 us vs hus.2 hvs.2 h
          rw [ih vs hus.2 hvs.2 (List.append_cancel_left h)]

theorem uniquelyDecodable_of_prefixFree {S : Set (List α)} (hnil : [] ∉ S)
    (hfree : ∀ u ∈ S, ∀ v ∈ S, u <+: v → u = v) : UniquelyDecodable S := by
  refine uniquelyDecodable_of_first hnil fun u hu v hv us vs _ _ h => ?_
  rcases List.prefix_or_prefix_of_prefix (List.prefix_append u us.flatten)
    (h ▸ List.prefix_append v vs.flatten) with hle | hle
  · exact hfree u hu v hv hle
  · exact (hfree v hv u hu hle).symm

/-! ### Words that are opened -/

/-- The words whose first sign opens a word and whose other signs do not. -/
def openedWords (opens : α → Prop) : Set (List α) :=
  {word | ∃ c rest, word = c :: rest ∧ opens c ∧ ∀ d ∈ rest, ¬ opens d}

section Opened

variable {opens : α → Prop}

theorem opens_of_mem_head?_flatten {words : List (List α)}
    (h : ∀ word ∈ words, word ∈ openedWords opens) : ∀ c ∈ words.flatten.head?, opens c := by
  cases words with
  | nil => exact nofun
  | cons word words =>
      obtain ⟨c, rest, rfl, hc, -⟩ := h word List.mem_cons_self
      simpa using hc

/-- What stands before the first sign that opens a word is known. -/
theorem eq_of_append_of_opens {rest rest' next next' : List α} (hrest : ∀ d ∈ rest, ¬ opens d)
    (hrest' : ∀ d ∈ rest', ¬ opens d) (hnext : ∀ c ∈ next.head?, opens c)
    (hnext' : ∀ c ∈ next'.head?, opens c) (h : rest ++ next = rest' ++ next') :
    rest = rest' := by
  -- If one list ends first, the other one goes on with a sign that opens a word.
  induction rest generalizing rest' with
  | nil =>
      cases rest' with
      | nil => rfl
      | cons e rest' =>
          rw [List.nil_append] at h
          exact absurd (hnext e (by simp [h])) (hrest' e List.mem_cons_self)
  | cons d rest ih =>
      cases rest' with
      | nil =>
          rw [List.nil_append] at h
          exact absurd (hnext' d (by simp [← h])) (hrest d List.mem_cons_self)
      | cons e rest' =>
          rw [List.forall_mem_cons] at hrest hrest'
          rw [List.cons_append, List.cons_append, List.cons_eq_cons] at h
          rw [h.1, ih hrest.2 hrest'.2 h.2]

/-- A word ends where the next one is opened. -/
theorem uniquelyDecodable_openedWords (opens : α → Prop) :
    UniquelyDecodable (openedWords opens) := by
  refine uniquelyDecodable_of_first (fun hnil => ?_) fun u hu v hv us vs hus hvs h => ?_
  · obtain ⟨c, rest, hword, -⟩ := hnil
    cases hword
  · obtain ⟨c, rest, rfl, -, hrest⟩ := hu
    obtain ⟨d, rest', rfl, -, hrest'⟩ := hv
    rw [List.cons_append, List.cons_append, List.cons_eq_cons] at h
    rw [h.1, eq_of_append_of_opens hrest hrest' (opens_of_mem_head?_flatten hus)
      (opens_of_mem_head?_flatten hvs) h.2]

end Opened

end ParserTables.Text
