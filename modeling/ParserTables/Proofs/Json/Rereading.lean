import Mathlib.Data.List.Forall2
import ParserTables.Proofs.Json.Lexing
import ParserTables.Proofs.Json.Reading

/-!
# Reading what is written

`d.Reads t a` says that the form `d` reads `a` from the tokens of the value `t`, whatever stands
behind them, within every budget that allows for the depth of `t`. There is one lemma for each way
in which forms are put together, so what is read from the value of a document is found by following
the description of its form.
-/

namespace ParserTables.Json

/-! ### Lengths -/

namespace Tree

mutual

theorem length_lt_tokensBefore (rest : List Token) :
    (t : Tree) → rest.length < (t.tokensBefore rest).length
  | .null | .boolean _ | .number _ | .text _ => Nat.lt_succ_self _
  | .array [] | .object [] => Nat.lt_succ_of_lt (Nat.lt_succ_self _)
  | .array (t :: items) => by
      have ht := length_lt_tokensBefore (itemTokens (.closeBracket :: rest) items) t
      have hitems := length_add_le_itemTokens (.closeBracket :: rest) items
      rw [tokensBefore, List.length_cons]
      rw [List.length_cons] at hitems
      omega
  | .object ((k, t) :: members) => by
      have ht := length_lt_tokensBefore (memberTokens (.closeBrace :: rest) members) t
      have hmembers := length_add_le_memberTokens (.closeBrace :: rest) members
      rw [tokensBefore, List.length_cons, List.length_cons, List.length_cons]
      rw [List.length_cons] at hmembers
      omega

theorem length_add_le_itemTokens (rest : List Token) :
    (items : List Tree) → items.length + rest.length ≤ (itemTokens rest items).length
  | [] => by rw [itemTokens, List.length_nil, Nat.zero_add]
  | t :: items => by
      have ht := length_lt_tokensBefore (itemTokens rest items) t
      have hitems := length_add_le_itemTokens rest items
      rw [itemTokens, List.length_cons, List.length_cons]
      omega

theorem length_add_le_memberTokens (rest : List Token) :
    (members : List (String × Tree)) →
      members.length + rest.length ≤ (memberTokens rest members).length
  | [] => by rw [memberTokens, List.length_nil, Nat.zero_add]
  | (k, t) :: members => by
      have ht := length_lt_tokensBefore (memberTokens rest members) t
      have hmembers := length_add_le_memberTokens rest members
      rw [memberTokens, List.length_cons, List.length_cons, List.length_cons, List.length_cons]
      omega

end

theorem depth_lt_of_mem_items {t : Tree} {items : List Tree} (h : t ∈ items) :
    t.depth < (array items).depth := by
  rw [depth, Nat.lt_succ_iff]
  induction items with
  | nil => cases h
  | cons u items ih =>
      rw [depthOfItems]
      rcases List.mem_cons.1 h with rfl | h
      · exact Nat.le_max_left _ _
      · exact (ih h).trans (Nat.le_max_right _ _)

theorem depth_lt_of_mem_members {k : String} {t : Tree} {members : List (String × Tree)}
    (h : (k, t) ∈ members) : t.depth < (object members).depth := by
  rw [depth, Nat.lt_succ_iff]
  induction members with
  | nil => cases h
  | cons m members ih =>
      rw [depthOfMembers]
      rcases List.mem_cons.1 h with rfl | h
      · exact Nat.le_max_left _ _
      · exact (ih h).trans (Nat.le_max_right _ _)

end Tree

/-! ### The parts of arrays and objects -/

namespace Reader

/-- The tokens of a value start with the value: an array goes on with it as its first item. -/
theorem nextItem_first (t : Tree) (rest : List Token) :
    nextItem true (t.tokensBefore rest) = .ok (some (t.tokensBefore rest)) := by
  cases t with
  | array items => cases items <;> rfl
  | object members => cases members <;> rfl
  | _ => rfl

theorem nextItem_comma (t : Tree) (rest : List Token) :
    nextItem false (.comma :: t.tokensBefore rest) = .ok (some (t.tokensBefore rest)) := by
  cases t with
  | array items => cases items <;> rfl
  | object members => cases members <;> rfl
  | _ => rfl

/-- The reader finds the value in front of any rest. -/
def Finds {α : Type} (item : Reader α) (t : Tree) (a : α) : Prop :=
  ∀ rest, item (t.tokensBefore rest) = .ok (a, rest)

theorem items_itemTokens {α : Type} {item : Reader α} {items : List Tree} {as : List α}
    (h : List.Forall₂ (Finds item) items as) (bound : List Token)
    (hbound : items.length < bound.length) (rest : List Token) :
    Reader.items item bound false (Tree.itemTokens (.closeBracket :: rest) items) =
      .ok (as, .closeBracket :: rest) := by
  induction h generalizing bound with
  | nil =>
      cases bound with
      | nil => cases hbound
      | cons b bound => rfl
  | cons ha _ ih =>
      cases bound with
      | nil => cases hbound
      | cons b bound =>
          rw [Reader.items, Tree.itemTokens, nextItem_comma]
          simp only [bind, Except.bind, ha _, ih bound (Nat.lt_of_succ_lt_succ hbound)]
          rfl

/-- The items of an array, after its opening bracket. -/
theorem items_arrayTokens {α : Type} {item : Reader α} {items : List Tree} {as : List α}
    (h : List.Forall₂ (Finds item) items as) (rest : List Token) :
    Reader.items item (.openBracket :: Tree.arrayTokens rest items) true
      (Tree.arrayTokens rest items) = .ok (as, .closeBracket :: rest) := by
  cases h with
  | nil => rfl
  | @cons t a items as ha has =>
      have ht := Tree.length_lt_tokensBefore (Tree.itemTokens (.closeBracket :: rest) items) t
      have hitems := Tree.length_add_le_itemTokens (.closeBracket :: rest) items
      have hfurther := items_itemTokens has
        (t.tokensBefore (Tree.itemTokens (.closeBracket :: rest) items)) (by omega) rest
      rw [Reader.items, Tree.arrayTokens, nextItem_first]
      simp only [bind, Except.bind, ha _, hfurther]
      rfl

/-- The reader of members takes the state from `s` to the last state through these members. -/
inductive Threads {σ : Type} (member : σ → String → Reader σ) :
    σ → List (String × Tree) → σ → Prop where
  | nil (s : σ) : Threads member s [] s
  | cons {s s' s'' : σ} {k : String} {t : Tree} {ms : List (String × Tree)}
      (first : ∀ rest, member s k (.colon :: t.tokensBefore rest) = .ok (s', rest))
      (further : Threads member s' ms s'') : Threads member s ((k, t) :: ms) s''

theorem members_memberTokens {σ : Type} {member : σ → String → Reader σ} {s s' : σ}
    {ms : List (String × Tree)} (h : Threads member s ms s') (bound : List Token)
    (hbound : ms.length < bound.length) (rest : List Token) :
    Reader.members member bound false s (Tree.memberTokens (.closeBrace :: rest) ms) =
      .ok (s', .closeBrace :: rest) := by
  induction h generalizing bound with
  | nil s =>
      cases bound with
      | nil => cases hbound
      | cons b bound => rfl
  | cons first _ ih =>
      cases bound with
      | nil => cases hbound
      | cons b bound =>
          rw [Reader.members, Tree.memberTokens]
          simp only [bind, Except.bind, nextKey, Token.isText, if_true, Bool.false_eq_true,
            if_false, textAs, first _, ih bound (Nat.lt_of_succ_lt_succ hbound)]

/-- The members of an object, after its opening brace. -/
theorem members_objectTokens {σ : Type} {member : σ → String → Reader σ} {s s' : σ}
    {ms : List (String × Tree)} (h : Threads member s ms s') (rest : List Token) :
    Reader.members member (.openBrace :: Tree.objectTokens rest ms) true s
      (Tree.objectTokens rest ms) = .ok (s', .closeBrace :: rest) := by
  cases h with
  | nil => rfl
  | @cons _ s'' _ k t ms first further =>
      have ht := Tree.length_lt_tokensBefore (Tree.memberTokens (.closeBrace :: rest) ms) t
      have hmembers := Tree.length_add_le_memberTokens (.closeBrace :: rest) ms
      have hfurther := members_memberTokens further (.text (.ok k) :: .colon ::
        t.tokensBefore (Tree.memberTokens (.closeBrace :: rest) ms))
        (by rw [List.length_cons, List.length_cons]; omega) rest
      rw [Reader.members, Tree.objectTokens]
      simp only [bind, Except.bind, nextKey, Token.isText, if_true, textAs, first _, hfurther]

end Reader

/-! ### Forms -/

namespace Decoder

variable {α β σ : Type}

/-- From the tokens of `t`, in front of anything, the form reads `a`, within every budget that
allows for the depth of `t`. -/
def Reads (d : Decoder α) (t : Tree) (a : α) : Prop :=
  ∀ budget, t.depth ≤ budget → Reader.Finds (d.scan budget) t a

theorem reads_text (s : String) : text.Reads (.text s) s := fun _ _ _ => rfl

theorem reads_boolean (b : Bool) : boolean.Reads (.boolean b) b := fun _ _ _ => rfl

theorem reads_natural (n : Nat) : natural.Reads (.natural n) n := fun _ _ _ => rfl

theorem reads_integer {n : Int} (h : n < Int.ofNat Text.signedBound) :
    integer.Reads (.number (.integer n)) n := by
  intro budget _ rest
  have htake : (if n < Int.ofNat Text.signedBound then .ok n
      else .error (.invalidValue (.number (.integer n)) "i64") : Except Problem Int) = .ok n :=
    if_pos h
  rw [Tree.tokensBefore, integer, leaf]
  simp only [Reader.foundAt, Token.found, Except.map, bind, Except.bind, htake]
  rfl

theorem Reads.map {d : Decoder α} {t : Tree} {a : α} (h : d.Reads t a) (f : α → β) :
    (d.map f).Reads t (f a) := by
  intro budget hbudget rest
  exact scan_map_eq_ok.2 ⟨a, h budget hbudget rest, rfl⟩

theorem Reads.restrict {d : Decoder α} {t : Tree} {a : α} (h : d.Reads t a)
    {rule : α → Except String β} {b : β} (hrule : rule a = .ok b) :
    (d.restrict rule).Reads t b := by
  intro budget hbudget rest
  exact scan_restrict_eq_ok.2 ⟨a, h budget hbudget rest, hrule⟩

/-- A value with something nested in it is only read within a budget that is not used up. -/
theorem exists_budget_of_depth {n budget : Nat} (h : n + 1 ≤ budget) :
    ∃ b, budget = b + 1 ∧ n ≤ b := by
  obtain ⟨b, rfl⟩ := Nat.exists_eq_succ_of_ne_zero (Nat.ne_of_gt (Nat.zero_lt_of_lt h))
  exact ⟨b, rfl, Nat.le_of_succ_le_succ h⟩

theorem finds_of_reads {d : Decoder α} {items : List Tree} {as : List α} {budget : Nat}
    (h : List.Forall₂ d.Reads items as) (hbudget : Tree.depthOfItems items ≤ budget) :
    List.Forall₂ (Reader.Finds (d.scan budget)) items as := by
  induction h with
  | nil => exact List.Forall₂.nil
  | cons ha _ ih =>
      rw [Tree.depthOfItems, Nat.max_le] at hbudget
      exact List.Forall₂.cons (ha budget hbudget.1) (ih hbudget.2)

/-- An array is read item by item. -/
theorem reads_list {d : Decoder α} {items : List Tree} {as : List α}
    (h : List.Forall₂ d.Reads items as) (expected : String) :
    (d.list expected).Reads (.array items) as := by
  intro budget hbudget rest
  obtain ⟨b, rfl, hb⟩ := exists_budget_of_depth hbudget
  rw [Tree.tokensBefore_array]
  exact scan_list_eq_ok.2 ⟨b, _, rfl, rfl,
    Reader.items_arrayTokens (finds_of_reads h hb) rest⟩

/-- A list of values that are written one by one. -/
theorem reads_map_list {d : Decoder α} {write : α → Tree} {as : List α}
    (h : ∀ a ∈ as, d.Reads (write a) a) (expected : String) :
    (d.list expected).Reads (.array (as.map write)) as := by
  refine reads_list ?_ expected
  rw [List.forall₂_map_left_iff]
  exact List.forall₂_same.2 h

theorem reads_pair {d : Decoder α} {e : Decoder β} {t u : Tree} {a : α} {b : β}
    (ha : d.Reads t a) (hb : e.Reads u b) : (d.pair e).Reads (.array [t, u]) (a, b) := by
  intro budget hbudget rest
  obtain ⟨n, rfl, hn⟩ := exists_budget_of_depth hbudget
  simp only [Tree.depthOfItems, Nat.max_le] at hn
  rw [Tree.tokensBefore_array]
  exact scan_pair_eq_ok.2 ⟨n, _, rfl, rfl, pairBody_eq_ok.2 ⟨_, _, _,
    Reader.nextItem_first t _, ha n hn.1 _, Reader.nextItem_comma u _, hb n hn.2.1 _⟩⟩

/-- An object with arbitrary keys is read member by member. -/
theorem reads_table {d : Decoder α} {write : α → Tree} {entries : List (String × α)}
    (h : ∀ e ∈ entries, d.Reads (write e.2) e.2) (put : σ → String → α → σ) (start : σ) :
    (d.table start put).Reads (.object (entries.map fun e => (e.1, write e.2)))
      (entries.foldl (fun s e => put s e.1 e.2) start) := by
  intro budget hbudget rest
  obtain ⟨b, rfl, hb⟩ := exists_budget_of_depth hbudget
  rw [Tree.tokensBefore_object]
  refine scan_table_eq_ok.2 ⟨b, _, rfl, rfl, Reader.members_objectTokens ?_ rest⟩
  clear hbudget
  induction entries generalizing start with
  | nil => exact .nil start
  | cons e entries ih =>
      rw [List.map_cons, Tree.depthOfMembers, Nat.max_le] at hb
      refine .cons (fun rest => tableMember_eq_ok.2 ⟨_, e.2, rfl, ?_, rfl⟩)
        (ih (fun e he => h e (List.mem_cons_of_mem _ he)) (put start e.1 e.2) hb.2)
      exact h e List.mem_cons_self b hb.1 rest

/-- A form that is described in terms of itself reads what is written for a value if its
description does so, given a form for what is written with less depth. -/
theorem reads_nested {describe : Decoder α → Decoder α} {write : α → Tree}
    (h : ∀ d a, (∀ b, (write b).depth < (write a).depth → d.Reads (write b) b) →
      (describe d).Reads (write a) a) (a : α) : (nested describe).Reads (write a) a := by
  -- The induction is on the approximation: the parts of a value have less depth, so the
  -- approximation before is enough for them.
  have happrox (n : Nat) (a : α) (ha : (write a).depth < n) :
      (approximation describe n).Reads (write a) a := by
    induction n generalizing a with
    | zero => exact absurd ha (Nat.not_lt_zero _)
    | succ n ih =>
        exact h (approximation describe n) a fun b hb =>
          ih b (Nat.lt_of_lt_of_le hb (Nat.le_of_lt_succ ha))
  intro budget hbudget rest
  exact happrox (budget + 1) a (Nat.lt_succ_of_le hbudget) budget hbudget rest

end Decoder

/-! ### Records -/

theorem Field.reads_of {σ α : Type} {d : Decoder α} {t : Tree} {a : α} (h : d.Reads t a)
    (name : String) (optional : Bool) (get : σ → Option α) (put : σ → Option α → σ) :
    (Field.of name optional get put d).content.Reads t fun s => put s (some a) :=
  h.map fun a s => put s (some a)

namespace Layout

variable {σ α : Type} {l : Layout σ α}

/-- The members set the fields of a draft one after the other, from one draft to another. -/
inductive Fills (l : Layout σ α) : σ → List (String × Tree) → σ → Prop where
  | nil (s : σ) : Fills l s [] s
  | cons {s s' : σ} {k : String} {t : Tree} {ms : List (String × Tree)} {f : Field σ}
      {change : σ → σ} (field : l.fields.find? (·.name == k) = some f)
      (free : f.isSet s = false) (value : f.content.Reads t change)
      (further : Fills l (change s) ms s') : Fills l s ((k, t) :: ms) s'

theorem Fills.threads {s s' : σ} {ms : List (String × Tree)} (h : l.Fills s ms s') {b : Nat}
    (hb : Tree.depthOfMembers ms ≤ b) : Reader.Threads (l.scanMember b) s ms s' := by
  induction h with
  | nil s => exact .nil s
  | cons field free value _ ih =>
      rw [Tree.depthOfMembers, Nat.max_le] at hb
      refine .cons (fun rest => (scanMember_known_eq_ok field).2 ⟨free, _, _, rfl, ?_, rfl⟩)
        (ih hb.2)
      exact value b hb.1 rest

/-- The first member sets a field that reads its value. -/
theorem Fills.field {α' : Type} {d : Decoder α'} {name : String} {optional : Bool}
    {get : σ → Option α'} {put : σ → Option α' → σ} {s s' : σ} {t : Tree} {a : α'}
    {ms : List (String × Tree)}
    (hfield : l.fields.find? (·.name == name) = some (.of name optional get put d))
    (hfree : (get s).isSome = false) (ha : d.Reads t a)
    (h : l.Fills (put s (some a)) ms s') : l.Fills s ((name, t) :: ms) s' :=
  .cons hfield hfree (Field.reads_of ha name optional get put) h

/-- A record is read from the object of its fields. -/
theorem reads_record {ms : List (String × Tree)} {s : σ} {a : α} (h : l.Fills l.empty ms s)
    (ha : l.build s = .ok a) : (Decoder.record l).Reads (.object ms) a := by
  intro budget hbudget rest
  obtain ⟨b, rfl, hb⟩ := Decoder.exists_budget_of_depth hbudget
  rw [Tree.tokensBefore_object]
  exact scan_record_eq_ok.2 ⟨b, _, s, rfl, ha, .inl ⟨rfl,
    Reader.members_objectTokens (h.threads hb) rest⟩⟩

end Layout

/-! ### Variants -/

namespace Variant

variable {α : Type} {vs : List (Variant α)}

theorem reads_bare {name : String} {a : α} (h : named vs name = .ok (.bare name a)) :
    (Decoder.variants vs).Reads (.text name) a := by
  intro budget _ rest
  exact scan_variants_eq_ok.2 (.inl ⟨name, _, rfl, h, rfl⟩)

theorem reads_carrying {name : String} {d : Decoder α} {t : Tree} {a : α}
    (h : named vs name = .ok (.carrying name d)) (ha : d.Reads t a) :
    (Decoder.variants vs).Reads (.object [(name, t)]) a := by
  intro budget hbudget rest
  obtain ⟨b, rfl, hb⟩ := Decoder.exists_budget_of_depth hbudget
  rw [Tree.depthOfMembers, Nat.max_le] at hb
  exact scan_variants_eq_ok.2 (.inr ⟨b, _, rfl, rfl,
    scanMember_eq_ok.2 ⟨name, _, _, rfl, h, ha b hb.1 _⟩⟩)

end Variant

end ParserTables.Json
