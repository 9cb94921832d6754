import ParserTables.Proofs.Json.Lexing
import ParserTables.Proofs.Json.Reading

/-!
# What forms yield

`d.Yields P` says that every value that the form `d` reads within a budget `b` has the property
`P b`, whichever way the value is written. It supposes that the integers of the tokens fit, as those
of every text do. There is one lemma for each way in which forms are put together.
-/

namespace ParserTables.Json

/-! ### Values within a number of levels -/

namespace Tree

/-- The value fits, and nests no more arrays and objects than there are levels. -/
def Within (levels : Nat) (t : Tree) : Prop := t.Fits ∧ t.depth ≤ levels

theorem Within.mono {m n : Nat} {t : Tree} (h : t.Within m) (hmn : m ≤ n) : t.Within n :=
  ⟨h.1, h.2.trans hmn⟩

theorem within_null (levels : Nat) : null.Within levels := ⟨trivial, Nat.zero_le _⟩

theorem within_boolean (levels : Nat) (b : Bool) : (boolean b).Within levels :=
  ⟨trivial, Nat.zero_le _⟩

theorem within_text (levels : Nat) (s : String) : (text s).Within levels :=
  ⟨trivial, Nat.zero_le _⟩

theorem within_integer (levels : Nat) {n : Int} (h : Literal.Fits n) :
    (number (.integer n)).Within levels := ⟨h, Nat.zero_le _⟩

theorem within_natural (levels : Nat) {n : Nat} (h : n < Text.wordBound) :
    (natural n).Within levels := by
  have hbound : (0 : Int) ≤ Text.signedBound := Int.natCast_nonneg _
  exact within_integer levels ⟨by omega, Int.ofNat_lt.2 h⟩

theorem within_array_succ {levels : Nat} {items : List Tree} :
    (array items).Within (levels + 1) ↔ ∀ t ∈ items, t.Within levels := by
  rw [Within, depth, Nat.succ_le_succ_iff]
  induction items with
  | nil => exact ⟨fun _ _ h => absurd h List.not_mem_nil, fun _ => ⟨trivial, Nat.zero_le _⟩⟩
  | cons t items ih =>
      rw [List.forall_mem_cons, ← ih, Fits, ItemsFit, depthOfItems, Nat.max_le]
      exact and_and_and_comm

theorem within_object_succ {levels : Nat} {members : List (String × Tree)} :
    (object members).Within (levels + 1) ↔ ∀ m ∈ members, m.2.Within levels := by
  rw [Within, depth, Nat.succ_le_succ_iff]
  induction members with
  | nil => exact ⟨fun _ _ h => absurd h List.not_mem_nil, fun _ => ⟨trivial, Nat.zero_le _⟩⟩
  | cons m members ih =>
      rw [List.forall_mem_cons, ← ih, Fits, MembersFit, depthOfMembers, Nat.max_le]
      exact and_and_and_comm

end Tree

/-! ### Readers -/

namespace Reader

variable {α σ : Type}

/-- The reader hands on a part of its tokens that goes up to the end, and what it reads has the
property. -/
def Yields (r : Reader α) (P : α → Prop) : Prop :=
  ∀ ts a rest, (∀ t ∈ ts, t.Fits) → r ts = .ok (a, rest) → rest <:+ ts ∧ P a

theorem fits_of_suffix {ts rest : List Token} (hts : ∀ t ∈ ts, t.Fits) (h : rest <:+ ts) :
    ∀ t ∈ rest, t.Fits :=
  fun t ht => hts t (h.subset ht)

/-- What follows an array or an object is left of what follows its opening mark. -/
theorem suffix_of_enclosed {first last : Token} {inner rest : List Token}
    (h : last :: rest <:+ inner) : rest <:+ first :: inner :=
  ((List.suffix_cons last rest).trans h).trans (List.suffix_cons first inner)

theorem yields_items {item : Reader α} {P : α → Prop} (h : Yields item P) (bound : List Token)
    (first : Bool) : Yields (items item bound first) fun as => ∀ a ∈ as, P a := by
  induction bound generalizing first with
  | nil =>
      rintro ts as rest - ⟨⟩
  | cons b bound ih =>
      intro ts as rest hts hitems
      obtain ⟨next, hnext, hitems⟩ := bind_eq_ok.1 hitems
      rcases next with _ | ts₁
      · cases pure_eq_ok.1 hitems
        exact ⟨List.suffix_refl _, fun a ha => nomatch ha⟩
      · have hsuffix := suffix_of_nextItem hnext
        obtain ⟨⟨a, ts₂⟩, ha, hitems⟩ := bind_eq_ok.1 hitems
        obtain ⟨⟨as', ts₃⟩, has, hitems⟩ := bind_eq_ok.1 hitems
        cases pure_eq_ok.1 hitems
        obtain ⟨hsuffix₂, hPa⟩ := h ts₁ a ts₂ (fits_of_suffix hts hsuffix) ha
        obtain ⟨hsuffix₃, hPas⟩ := ih false ts₂ as' rest
          (fits_of_suffix hts (hsuffix₂.trans hsuffix)) has
        exact ⟨hsuffix₃.trans (hsuffix₂.trans hsuffix), List.forall_mem_cons.2 ⟨hPa, hPas⟩⟩

/-- What every member preserves, all members preserve. -/
theorem yields_members {member : σ → String → Reader σ} {I : σ → Prop}
    (h : ∀ s key, I s → Yields (member s key) I) (bound : List Token) (first : Bool) {s : σ}
    (hs : I s) : Yields (members member bound first s) I := by
  induction bound generalizing first s with
  | nil =>
      rintro ts s' rest - ⟨⟩
  | cons b bound ih =>
      intro ts s' rest hts hmembers
      obtain ⟨next, hnext, hmembers⟩ := bind_eq_ok.1 hmembers
      rcases next with _ | ts₁
      · cases pure_eq_ok.1 hmembers
        exact ⟨List.suffix_refl _, hs⟩
      · have hsuffix := suffix_of_nextKey hnext
        obtain ⟨⟨key, ts₂⟩, hkey, hmembers⟩ := bind_eq_ok.1 hmembers
        obtain ⟨⟨s₁, ts₃⟩, hmember, hmembers⟩ := bind_eq_ok.1 hmembers
        rw [textAs_eq_ok.1 hkey] at hsuffix
        have hsuffix₂ := (List.suffix_cons _ ts₂).trans hsuffix
        obtain ⟨hsuffix₃, hs₁⟩ := h s key hs ts₂ s₁ ts₃ (fits_of_suffix hts hsuffix₂) hmember
        obtain ⟨hsuffix₄, hs'⟩ := ih false hs₁ ts₃ s' rest
          (fits_of_suffix hts (hsuffix₃.trans hsuffix₂)) hmembers
        exact ⟨hsuffix₄.trans (hsuffix₃.trans hsuffix₂), hs'⟩

end Reader

/-! ### Forms -/

namespace Decoder

open ParserTables.Text (signedBound wordBound)

variable {α β σ : Type}

/-- What the form reads within a budget has the property for this budget. -/
def Yields (d : Decoder α) (P : Nat → α → Prop) : Prop :=
  ∀ budget, Reader.Yields (d.scan budget) (P budget)

theorem Yields.mono {d : Decoder α} {P Q : Nat → α → Prop} (h : d.Yields P)
    (hPQ : ∀ b a, P b a → Q b a) : d.Yields Q := by
  intro budget ts a rest hts ha
  obtain ⟨hsuffix, hP⟩ := h budget ts a rest hts ha
  exact ⟨hsuffix, hPQ budget a hP⟩

theorem yields_leaf {take : Found → Except Problem α} {P : α → Prop}
    (h : ∀ t found a, Token.Fits t → t.found = .ok found → take found = .ok a → P a) :
    (leaf take).Yields fun _ => P := by
  intro budget ts a rest hts ha
  obtain ⟨t, found, rfl, hfound, ha⟩ := scan_leaf_eq_ok.1 ha
  exact ⟨List.suffix_cons t rest, h t found a (hts t List.mem_cons_self) hfound ha⟩

theorem yields_text : text.Yields fun _ _ => True := yields_leaf fun _ _ _ _ _ _ => trivial

theorem yields_nullableText : nullableText.Yields fun _ _ => True :=
  yields_leaf fun _ _ _ _ _ _ => trivial

theorem yields_boolean : boolean.Yields fun _ _ => True :=
  yields_leaf fun _ _ _ _ _ _ => trivial

theorem yields_unit : unit.Yields fun _ _ => True := yields_leaf fun _ _ _ _ _ _ => trivial

/-- A number is found in a token that holds it. -/
theorem fits_of_found {t : Token} (ht : t.Fits) {n : Int}
    (h : t.found = .ok (.number (.integer n))) : Literal.Fits n := by
  cases t with
  | number value =>
      obtain ⟨x, rfl, hx⟩ := map_eq_ok.1 h
      cases hx
      exact ht
  | text value =>
      obtain ⟨s, -, hs⟩ := map_eq_ok.1 h
      cases hs
  | _ => cases h

theorem yields_natural : natural.Yields fun _ n => n < wordBound := by
  refine yields_leaf fun t found n ht hfound hn => ?_
  split at hn
  · next m =>
    split at hn
    · next k =>
      cases hn
      exact Int.ofNat_lt.1 (fits_of_found ht hfound).2
    · cases hn
  · cases hn

theorem yields_integer :
    integer.Yields fun _ n => Literal.Fits n ∧ n < Int.ofNat signedBound := by
  refine yields_leaf fun t found n ht hfound hn => ?_
  split at hn
  · next m =>
    split at hn
    · next hlt =>
      cases hn
      exact ⟨fits_of_found ht hfound, hlt⟩
    · cases hn
  · cases hn

theorem Yields.map {d : Decoder α} {P : Nat → α → Prop} {Q : Nat → β → Prop} (h : d.Yields P)
    {f : α → β} (hf : ∀ b a, P b a → Q b (f a)) : (d.map f).Yields Q := by
  intro budget ts c rest hts hc
  obtain ⟨a, ha, rfl⟩ := scan_map_eq_ok.1 hc
  obtain ⟨hsuffix, hP⟩ := h budget ts a rest hts ha
  exact ⟨hsuffix, hf budget a hP⟩

theorem Yields.restrict {d : Decoder α} {P : Nat → α → Prop} {Q : Nat → β → Prop}
    (h : d.Yields P) {rule : α → Except String β}
    (hrule : ∀ b a c, P b a → rule a = .ok c → Q b c) : (d.restrict rule).Yields Q := by
  intro budget ts c rest hts hc
  obtain ⟨a, ha, hac⟩ := scan_restrict_eq_ok.1 hc
  obtain ⟨hsuffix, hP⟩ := h budget ts a rest hts ha
  exact ⟨hsuffix, hrule budget a c hP hac⟩

theorem Yields.list {d : Decoder α} {P : Nat → α → Prop} (h : d.Yields P) (expected : String) :
    (d.list expected).Yields fun budget as => ∃ b, budget = b + 1 ∧ ∀ a ∈ as, P b a := by
  intro budget ts as rest hts has
  obtain ⟨b, inner, rfl, rfl, hitems⟩ := scan_list_eq_ok.1 has
  have hinner := List.suffix_cons Token.openBracket inner
  obtain ⟨hsuffix, hP⟩ := Reader.yields_items (h b) _ _ inner as _
    (Reader.fits_of_suffix hts hinner) hitems
  exact ⟨Reader.suffix_of_enclosed hsuffix, b, rfl, hP⟩

theorem Yields.pair {d : Decoder α} {e : Decoder β} {P : Nat → α → Prop} {Q : Nat → β → Prop}
    (hd : d.Yields P) (he : e.Yields Q) :
    (d.pair e).Yields fun budget p => ∃ b, budget = b + 1 ∧ P b p.1 ∧ Q b p.2 := by
  intro budget ts p rest hts hp
  obtain ⟨b, inner, rfl, rfl, hbody⟩ := scan_pair_eq_ok.1 hp
  obtain ⟨ts₁, ts₂, ts₃, hnext₁, hx, hnext₂, hy⟩ := pairBody_eq_ok.1 hbody
  have hsuffix₁ := (Reader.suffix_of_nextItem hnext₁).trans
    (List.suffix_cons Token.openBracket inner)
  obtain ⟨hsuffix₂, hP⟩ := hd b ts₁ p.1 ts₂ (Reader.fits_of_suffix hts hsuffix₁) hx
  have hsuffix₃ := (Reader.suffix_of_nextItem hnext₂).trans (hsuffix₂.trans hsuffix₁)
  obtain ⟨hsuffix₄, hQ⟩ := he b ts₃ p.2 _ (Reader.fits_of_suffix hts hsuffix₃) hy
  exact ⟨((List.suffix_cons _ rest).trans hsuffix₄).trans hsuffix₃, b, rfl, hP, hQ⟩

theorem Yields.table {d : Decoder α} {P : Nat → α → Prop} (h : d.Yields P) {start : σ}
    {put : σ → String → α → σ} {I : Nat → σ → Prop} (hstart : ∀ b, I b start)
    (hput : ∀ b s key a, I b s → P b a → I b (put s key a)) :
    (d.table start put).Yields fun budget s => ∃ b, budget = b + 1 ∧ I b s := by
  intro budget ts s rest hts hs
  obtain ⟨b, inner, rfl, rfl, hmembers⟩ := scan_table_eq_ok.1 hs
  have hinner := List.suffix_cons Token.openBrace inner
  have hmember (s : σ) (key : String) (hI : I b s) :
      Reader.Yields (tableMember d put b s key) (I b) := by
    intro ts s' rest hts hs'
    obtain ⟨ts₁, a, rfl, ha, rfl⟩ := tableMember_eq_ok.1 hs'
    have hcolon := List.suffix_cons Token.colon ts₁
    obtain ⟨hsuffix, hP⟩ := h b ts₁ a rest (Reader.fits_of_suffix hts hcolon) ha
    exact ⟨hsuffix.trans hcolon, hput b s key a hI hP⟩
  obtain ⟨hsuffix, hI⟩ := Reader.yields_members hmember _ _ (hstart b) inner s _
    (Reader.fits_of_suffix hts hinner) hmembers
  exact ⟨Reader.suffix_of_enclosed hsuffix, b, rfl, hI⟩

/-- What the description preserves holds of the form that it describes. -/
theorem yields_nested {describe : Decoder α → Decoder α} {P : Nat → α → Prop}
    (h : ∀ d, d.Yields P → (describe d).Yields P) : (nested describe).Yields P := by
  -- The first approximation reads nothing, so the property holds of it whatever it says.
  have happrox (n : Nat) : (approximation describe n).Yields P := by
    induction n with
    | zero =>
        rintro budget ts a rest - ⟨⟩
    | succ n ih => exact h _ ih
  intro budget
  exact happrox (budget + 1) budget

end Decoder

/-! ### Records -/

namespace Field

variable {σ α : Type}

/-- Whatever is read for the field, setting it preserves the property of drafts. -/
def Keeps (f : Field σ) (I : Nat → σ → Prop) : Prop :=
  f.content.Yields fun b change => ∀ s, I b s → I b (change s)

theorem keeps_of {name : String} {optional : Bool} {get : σ → Option α}
    {put : σ → Option α → σ} {d : Decoder α} {P : Nat → α → Prop} {I : Nat → σ → Prop}
    (hd : d.Yields P) (hput : ∀ b s a, I b s → P b a → I b (put s (some a))) :
    (Field.of name optional get put d).Keeps I := by
  unfold Keeps
  exact hd.map (f := fun a s => put s (some a)) fun b a hP s hI => hput b s a hI hP

end Field

namespace Layout

variable {σ α : Type} {l : Layout σ α} {I : Nat → σ → Prop}

theorem yields_scanMember (hfields : ∀ f ∈ l.fields, f.Keeps I) (b : Nat) {s : σ}
    (hs : I b s) (key : String) : Reader.Yields (l.scanMember b s key) (I b) := by
  intro ts s' rest hts hs'
  cases hf : l.fields.find? (·.name == key) with
  | none =>
      obtain ⟨rfl, ts₁, rfl, hpass⟩ := (scanMember_unknown_eq_ok hf).1 hs'
      exact ⟨(Reader.suffix_of_passOver hpass).trans (List.suffix_cons _ _), hs⟩
  | some f =>
      obtain ⟨-, ts₁, change, rfl, hchange, rfl⟩ := (scanMember_known_eq_ok hf).1 hs'
      have hcolon := List.suffix_cons Token.colon ts₁
      obtain ⟨hsuffix, hkeep⟩ := hfields f (List.mem_of_find?_eq_some hf) b ts₁ change rest
        (Reader.fits_of_suffix hts hcolon) hchange
      exact ⟨hsuffix.trans hcolon, hkeep s hs⟩

theorem yields_scanItems (b : Nat) {fields : List (Field σ)} (hfields : ∀ f ∈ fields, f.Keeps I)
    (count : Nat) {s : σ} (hs : I b s) :
    Reader.Yields (l.scanItems b count s fields) (I b) := by
  induction fields generalizing count s with
  | nil =>
      rintro ts s' rest - ⟨⟩
      exact ⟨List.suffix_refl _, hs⟩
  | cons f fields ih =>
      obtain ⟨hf, hfields⟩ := List.forall_mem_cons.1 hfields
      intro ts s' rest hts hs'
      obtain ⟨next, hnext, hs'⟩ := bind_eq_ok.1 hs'
      rcases next with _ | ts₁
      · dsimp only at hs'
        split at hs'
        · exact ih hfields (count + 1) hs ts s' rest hts hs'
        · cases hs'
      · have hsuffix := Reader.suffix_of_nextItem hnext
        obtain ⟨⟨change, ts₂⟩, hchange, hs'⟩ := bind_eq_ok.1 hs'
        obtain ⟨hsuffix₂, hkeep⟩ := hf b ts₁ change ts₂
          (Reader.fits_of_suffix hts hsuffix) hchange
        obtain ⟨hsuffix₃, hI⟩ := ih hfields (count + 1) (hkeep s hs) ts₂ s' rest
          (Reader.fits_of_suffix hts (hsuffix₂.trans hsuffix)) hs'
        exact ⟨hsuffix₃.trans (hsuffix₂.trans hsuffix), hI⟩

/-- What holds of the empty draft and is kept by every field holds of the draft that the record
is built from. -/
theorem yields_record {P : Nat → α → Prop} (hempty : ∀ b, I b l.empty)
    (hfields : ∀ f ∈ l.fields, f.Keeps I)
    (hbuild : ∀ b s a, I b s → l.build s = .ok a → P (b + 1) a) :
    (Decoder.record l).Yields P := by
  intro budget ts a rest hts ha
  obtain ⟨b, inner, s, rfl, hs, h⟩ := scan_record_eq_ok.1 ha
  rcases h with ⟨rfl, hmembers⟩ | ⟨rfl, hitems⟩
  · have hinner := List.suffix_cons Token.openBrace inner
    obtain ⟨hsuffix, hI⟩ := Reader.yields_members
      (fun s key hs => yields_scanMember hfields b hs key) _ _ (hempty b) inner s _
      (Reader.fits_of_suffix hts hinner) hmembers
    exact ⟨Reader.suffix_of_enclosed hsuffix, hbuild b s a hI hs⟩
  · have hinner := List.suffix_cons Token.openBracket inner
    obtain ⟨hsuffix, hI⟩ := yields_scanItems b hfields 0 (hempty b) inner s _
      (Reader.fits_of_suffix hts hinner) hitems
    exact ⟨Reader.suffix_of_enclosed hsuffix, hbuild b s a hI hs⟩

end Layout

/-! ### Variants -/

namespace Variant

variable {α : Type}

/-- The values of the variant have the property. What a variant carries stands one level deeper
than the variant. -/
def Yields (P : Nat → α → Prop) : Variant α → Prop
  | .bare _ value => ∀ b, P b value
  | .carrying _ content => content.Yields fun b a => P (b + 1) a

theorem mem_of_named {vs : List (Variant α)} {key : String} {v : Variant α}
    (h : named vs key = .ok v) : v ∈ vs := by
  unfold named at h
  split at h
  · next v' hfind =>
    cases h
    exact List.mem_of_find?_eq_some hfind
  · cases h

theorem Yields.content {P : Nat → α → Prop} {v : Variant α} (h : v.Yields P) :
    v.content.Yields fun b a => P (b + 1) a := by
  cases v with
  | bare name value => exact Decoder.yields_unit.map fun b _ _ => h (b + 1)
  | carrying name content => exact h

theorem yields_variants {vs : List (Variant α)} {P : Nat → α → Prop}
    (h : ∀ v ∈ vs, v.Yields P) : (Decoder.variants vs).Yields P := by
  intro budget ts a rest hts ha
  rcases scan_variants_eq_ok.1 ha with ⟨name, v, rfl, hv, ha⟩ | ⟨b, inner, rfl, rfl, hmember⟩
  · have hvP := h v (mem_of_named hv)
    cases v with
    | bare name value =>
        cases ha
        exact ⟨List.suffix_cons _ _, hvP budget⟩
    | carrying name content => cases ha
  · obtain ⟨key, ts₁, v, hnext, hv, ha⟩ := scanMember_eq_ok.1 hmember
    have hsuffix : ts₁ <:+ .openBrace :: inner :=
      (List.suffix_cons _ _).trans <| (List.suffix_cons _ _).trans <|
        (Reader.suffix_of_nextKey hnext).trans (List.suffix_cons _ _)
    obtain ⟨hsuffix₂, hP⟩ := (h v (mem_of_named hv)).content b ts₁ a _
      (Reader.fits_of_suffix hts hsuffix) ha
    exact ⟨((List.suffix_cons _ rest).trans hsuffix₂).trans hsuffix, hP⟩

end Variant

end ParserTables.Json
