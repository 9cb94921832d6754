import Mathlib.Data.List.Forall2
import ParserTables.Json.Record
import ParserTables.Json.Variant
import ParserTables.Proofs.Failure
import ParserTables.Proofs.Json.Sorting

/-!
# Taking what is written from a generic value

`d.Accepts t a` says that the form `d` takes `a` from the generic value that `t` is read as. As
for reading from tokens, there is one lemma for each way in which forms are put together. The
members of a record have been sorted by then, so its fields are set in another order than the one
in which they are written.
-/

namespace ParserTables.Json

namespace Decoder

variable {α β σ : Type}

/-- From the value `t`, once it is sorted, the form takes `a`. -/
def Accepts (d : Decoder α) (t : Tree) (a : α) : Prop := d.accept t.sorted = .ok a

theorem accepts_text (s : String) : text.Accepts (.text s) s := rfl

theorem accepts_boolean (b : Bool) : boolean.Accepts (.boolean b) b := rfl

theorem accepts_natural (n : Nat) : natural.Accepts (.natural n) n := rfl

theorem accepts_integer {n : Int} (h : n < Int.ofNat Text.signedBound) :
    integer.Accepts (.number (.integer n)) n :=
  if_pos h

theorem Accepts.map {d : Decoder α} {t : Tree} {a : α} (h : d.Accepts t a) (f : α → β) :
    (d.map f).Accepts t (f a) :=
  map_eq_ok.2 ⟨a, h, rfl⟩

theorem Accepts.restrict {d : Decoder α} {t : Tree} {a : α} (h : d.Accepts t a)
    {rule : α → Except String β} {b : β} (hrule : rule a = .ok b) :
    (d.restrict rule).Accepts t b := by
  refine bind_eq_ok.2 ⟨a, h, ?_⟩
  rw [hrule]
  rfl

theorem mapM_accept {d : Decoder α} {items : List Tree} {as : List α}
    (h : List.Forall₂ d.Accepts items as) :
    (items.map Tree.sorted).mapM d.accept = .ok as := by
  induction h with
  | nil => rfl
  | cons ha _ ih => exact mapM_cons_eq_ok.2 ⟨_, _, ha, ih, rfl⟩

/-- An array is taken item by item. -/
theorem accepts_list {d : Decoder α} {items : List Tree} {as : List α}
    (h : List.Forall₂ d.Accepts items as) (expected : String) :
    (d.list expected).Accepts (.array items) as := by
  rw [Accepts, Tree.sorted, Tree.sortedItems_eq_map]
  exact mapM_accept h

theorem accepts_map_list {d : Decoder α} {write : α → Tree} {as : List α}
    (h : ∀ a ∈ as, d.Accepts (write a) a) (expected : String) :
    (d.list expected).Accepts (.array (as.map write)) as := by
  refine accepts_list ?_ expected
  rw [List.forall₂_map_left_iff]
  exact List.forall₂_same.2 h

theorem accepts_pair {d : Decoder α} {e : Decoder β} {t u : Tree} {a : α} {b : β}
    (ha : d.Accepts t a) (hb : e.Accepts u b) : (d.pair e).Accepts (.array [t, u]) (a, b) :=
  bind_eq_ok.2 ⟨a, ha, bind_eq_ok.2 ⟨b, hb, rfl⟩⟩

/-- An object with distinct keys is taken member by member, in the order of the keys. -/
theorem exists_accepts_table {d : Decoder α} {write : α → Tree} {entries : List (String × α)}
    (h : ∀ e ∈ entries, d.Accepts (write e.2) e.2) (hdistinct : (entries.map Prod.fst).Nodup)
    (put : σ → String → α → σ) (start : σ) :
    ∃ es : List (String × α), es.Perm entries ∧ Tree.Ascending es ∧
      (d.table start put).Accepts (.object (entries.map fun e => (e.1, write e.2)))
        (es.foldl (fun s e => put s e.1 e.2) start) := by
  obtain ⟨es, hsorted, hperm, hasc⟩ :=
    Tree.exists_sortedMembers write Tree.ascending_nil hdistinct
  rw [List.nil_append] at hperm
  refine ⟨es, hperm, hasc, ?_⟩
  have hes : ∀ e ∈ es, d.Accepts (write e.2) e.2 := fun e he => h e (hperm.mem_iff.1 he)
  have hobject : (Tree.object (entries.map fun e => (e.1, write e.2))).sorted =
      .object (es.map fun e => (e.1, (write e.2).sorted)) := by
    rw [Tree.sorted]
    exact congrArg Tree.object hsorted
  rw [Accepts, hobject, table]
  dsimp only
  clear hsorted hobject hperm hasc h
  induction es generalizing start with
  | nil => rfl
  | cons e es ih =>
      rw [List.map_cons, List.foldlM_cons, List.foldl_cons]
      refine bind_eq_ok.2 ⟨put start e.1 e.2, ?_, ih (put start e.1 e.2) ?_⟩
      · exact bind_eq_ok.2 ⟨e.2, hes e List.mem_cons_self, rfl⟩
      · exact fun f hf => hes f (List.mem_cons_of_mem _ hf)

/-- A form that is described in terms of itself takes what is written for a value if its
description does so, given a form for what is written with less depth. -/
theorem accepts_nested {describe : Decoder α → Decoder α} {write : α → Tree}
    (h : ∀ d a, (∀ b, (write b).sorted.depth < (write a).sorted.depth → d.Accepts (write b) b) →
      (describe d).Accepts (write a) a) (a : α) : (nested describe).Accepts (write a) a := by
  have happrox (n : Nat) (a : α) (ha : (write a).sorted.depth < n) :
      (approximation describe n).Accepts (write a) a := by
    induction n generalizing a with
    | zero => exact absurd ha (Nat.not_lt_zero _)
    | succ n ih =>
        exact h (approximation describe n) a fun b hb =>
          ih b (Nat.lt_of_lt_of_le hb (Nat.le_of_lt_succ ha))
  exact happrox _ a (Nat.lt_succ_self _)

end Decoder

/-! ### Records -/

namespace Layout

variable {σ α : Type} {l : Layout σ α}

/-- Generic members set the fields of a draft one after the other, from one draft to another. -/
inductive Collects (l : Layout σ α) : σ → List (String × Tree) → σ → Prop where
  | nil (s : σ) : Collects l s [] s
  | cons {s s' : σ} {k : String} {t : Tree} {ms : List (String × Tree)} {f : Field σ}
      {change : σ → σ} (field : l.fields.find? (·.name == k) = some f)
      (free : f.isSet s = false) (value : f.content.accept t = .ok change)
      (further : Collects l (change s) ms s') : Collects l s ((k, t) :: ms) s'

theorem Collects.foldlM {s s' : σ} {ms : List (String × Tree)} (h : l.Collects s ms s') :
    ms.foldlM l.acceptMember s = .ok s' := by
  induction h with
  | nil s => rfl
  | @cons s s' k t ms f change field free value _ ih =>
      have hmember : l.acceptMember s (k, t) = .ok (change s) := by
        rw [acceptMember, field]
        dsimp only
        rw [if_neg (by rw [free]; exact Bool.false_ne_true)]
        exact bind_eq_ok.2 ⟨change, value, rfl⟩
      rw [List.foldlM_cons]
      exact bind_eq_ok.2 ⟨change s, hmember, ih⟩

/-- The first member sets a field that takes its value. -/
theorem Collects.field {α' : Type} {d : Decoder α'} {name : String} {optional : Bool}
    {get : σ → Option α'} {put : σ → Option α' → σ} {s s' : σ} {t : Tree} {a : α'}
    {ms : List (String × Tree)}
    (hfield : l.fields.find? (·.name == name) = some (.of name optional get put d))
    (hfree : (get s).isSome = false) (ha : d.Accepts t a)
    (h : l.Collects (put s (some a)) ms s') : l.Collects s ((name, t.sorted) :: ms) s' :=
  .cons hfield hfree (ha.map fun a s => put s (some a)) h

/-- A record is taken from the object of its fields, whose members are in the order `ms` by then. -/
theorem accepts_record {members ms : List (String × Tree)} {s : σ} {a : α}
    (hms : Tree.sortedMembers [] members = ms) (h : l.Collects l.empty ms s)
    (ha : l.build s = .ok a) : (Decoder.record l).Accepts (.object members) a := by
  rw [Decoder.Accepts, Tree.sorted, hms]
  exact bind_eq_ok.2 ⟨s, h.foldlM, ha⟩

end Layout

/-! ### Variants -/

namespace Variant

variable {α : Type} {vs : List (Variant α)}

theorem accepts_bare {name : String} {a : α} (h : named vs name = .ok (.bare name a)) :
    (Decoder.variants vs).Accepts (.text name) a :=
  bind_eq_ok.2 ⟨_, h, rfl⟩

theorem accepts_carrying {name : String} {d : Decoder α} {t : Tree} {a : α}
    (h : named vs name = .ok (.carrying name d)) (ha : d.Accepts t a) :
    (Decoder.variants vs).Accepts (.object [(name, t)]) a :=
  bind_eq_ok.2 ⟨_, h, ha⟩

end Variant

end ParserTables.Json
