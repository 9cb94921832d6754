import ParserTables.Json.Record
import ParserTables.Json.Variant
import ParserTables.Proofs.Failure

/-!
# Readers that succeed

What the tokens look like when a step of a reader succeeds. A step hands on a part of its tokens
that goes up to the end.
-/

namespace ParserTables.Json

namespace Reader

variable {α : Type}

theorem endArray_eq_ok {ts rest : List Token} :
    endArray ts = .ok rest ↔ ts = .closeBracket :: rest := by
  constructor
  · intro h
    unfold endArray at h
    split at h
    · cases h
    · cases h
      rfl
    · cases h
    · cases h
  · rintro rfl
    rfl

theorem endObject_eq_ok {ts rest : List Token} :
    endObject ts = .ok rest ↔ ts = .closeBrace :: rest := by
  constructor
  · intro h
    unfold endObject at h
    split at h
    · cases h
    · cases h
      rfl
    · cases h
    · cases h
  · rintro rfl
    rfl

theorem afterColon_eq_ok {ts rest : List Token} :
    afterColon ts = .ok rest ↔ ts = .colon :: rest := by
  constructor
  · intro h
    unfold afterColon at h
    split at h
    · cases h
    · cases h
      rfl
    · cases h
  · rintro rfl
    rfl

theorem textAs_eq_ok {expected : String} {ts rest : List Token} {s : String} :
    textAs expected ts = .ok (s, rest) ↔ ts = .text (.ok s) :: rest := by
  constructor
  · intro h
    unfold textAs at h
    split at h
    · cases h
      rfl
    · obtain ⟨found, -, h⟩ := bind_eq_ok.1 h
      cases h
  · rintro rfl
    rfl

/-- The tokens from the next item on are a part that goes up to the end. -/
theorem suffix_of_nextItem {first : Bool} {ts rest : List Token}
    (h : nextItem first ts = .ok (some rest)) : rest <:+ ts := by
  unfold nextItem at h
  split at h
  · cases h
  · cases h
  · split at h
    · cases h
      exact List.suffix_refl _
    · split at h
      · cases h
      · cases h
      · cases h
        exact List.suffix_cons _ _
  · split at h
    · cases h
      exact List.suffix_refl _
    · cases h

/-- The tokens from the next key on are a part that goes up to the end. -/
theorem suffix_of_nextKey {first : Bool} {ts rest : List Token}
    (h : nextKey first ts = .ok (some rest)) : rest <:+ ts := by
  unfold nextKey at h
  split at h
  · cases h
  · cases h
  · split at h
    · cases h
    · split at h
      · cases h
      · cases h
      · split at h
        · cases h
          exact List.suffix_cons _ _
        · cases h
  · split at h
    · split at h
      · cases h
        exact List.suffix_refl _
      · cases h
    · cases h

/-- What is passed over stands in front of what is left. -/
theorem suffix_of_passOver {frames : List Frame} {next : Awaiting} {ts rest : List Token}
    (h : passOver frames next ts = .ok rest) : rest <:+ ts := by
  induction ts generalizing frames next with
  | nil => cases h
  | cons t ts ih =>
      rw [passOver] at h
      split at h
      · cases h
      · cases h
        exact List.suffix_cons _ _
      · exact (ih h).trans (List.suffix_cons _ _)

/-- One level of nesting: what stands inside, and the mark that closes it. -/
def enclosed (close : List Token → Except Problem (List Token)) (body : Nat → Reader α) :
    Nat → Reader α
  | 0, _ => .error .recursionLimit
  | b + 1, ts => do
    let (a, ts) ← body b ts
    let ts ← close ts
    return (a, ts)

theorem enclosed_eq_ok {close : List Token → Except Problem (List Token)} {mark : Token}
    (hclose : ∀ {ts rest}, close ts = .ok rest ↔ ts = mark :: rest) {body : Nat → Reader α}
    {budget : Nat} {a : α} {ts rest : List Token} :
    enclosed close body budget ts = .ok (a, rest) ↔
      ∃ b, budget = b + 1 ∧ body b ts = .ok (a, mark :: rest) := by
  cases budget with
  | zero =>
      constructor
      · intro h
        cases h
      · intro ⟨b, hb, _⟩
        cases hb
  | succ b =>
      rw [enclosed, bind_eq_ok]
      constructor
      · intro ⟨⟨a', ts'⟩, hbody, h⟩
        obtain ⟨rest', hend, h⟩ := bind_eq_ok.1 h
        cases pure_eq_ok.1 h
        exact ⟨b, rfl, by rw [hbody, hclose.1 hend]⟩
      · intro ⟨b', hb, hbody⟩
        cases hb
        exact ⟨_, hbody, bind_eq_ok.2 ⟨rest, hclose.2 rfl, rfl⟩⟩

/-- Reading an array takes a level, and hands on what follows its closing bracket. -/
theorem inArray_eq_ok {body : Nat → Reader α} {budget : Nat} {a : α} {ts rest : List Token} :
    inArray body budget ts = .ok (a, rest) ↔
      ∃ b, budget = b + 1 ∧ body b ts = .ok (a, .closeBracket :: rest) := by
  have h : inArray body budget ts = enclosed endArray body budget ts := by cases budget <;> rfl
  rw [h]
  exact enclosed_eq_ok endArray_eq_ok

/-- Reading an object takes a level, and hands on what follows its closing brace. -/
theorem inObject_eq_ok {body : Nat → Reader α} {budget : Nat} {a : α} {ts rest : List Token} :
    inObject body budget ts = .ok (a, rest) ↔
      ∃ b, budget = b + 1 ∧ body b ts = .ok (a, .closeBrace :: rest) := by
  have h : inObject body budget ts = enclosed endObject body budget ts := by cases budget <;> rfl
  rw [h]
  exact enclosed_eq_ok endObject_eq_ok

end Reader

/-! ### Forms -/

namespace Decoder

variable {α β σ : Type} {budget : Nat} {ts rest : List Token}

theorem scan_leaf_eq_ok {take : Found → Except Problem α} {a : α} :
    (leaf take).scan budget ts = .ok (a, rest) ↔
      ∃ t found, ts = t :: rest ∧ t.found = .ok found ∧ take found = .ok a := by
  cases ts with
  | nil =>
      constructor
      · rintro ⟨⟩
      · rintro ⟨t, found, h, -⟩
        cases h
  | cons t ts =>
      have hscan : (leaf take).scan budget (t :: ts) =
          t.found >>= fun found => take found >>= fun a => pure (a, ts) := rfl
      rw [hscan, bind_eq_ok]
      constructor
      · rintro ⟨found, hfound, h⟩
        obtain ⟨a', ha, h⟩ := bind_eq_ok.1 h
        cases pure_eq_ok.1 h
        exact ⟨t, found, rfl, hfound, ha⟩
      · rintro ⟨t', found, ht, hfound, ha⟩
        cases ht
        exact ⟨found, hfound, bind_eq_ok.2 ⟨a, ha, rfl⟩⟩

theorem scan_map_eq_ok {d : Decoder α} {f : α → β} {b : β} :
    (d.map f).scan budget ts = .ok (b, rest) ↔
      ∃ a, d.scan budget ts = .ok (a, rest) ∧ f a = b := by
  have hscan : (d.map f).scan budget ts = (d.scan budget ts).map fun p => (f p.1, p.2) := rfl
  rw [hscan, map_eq_ok]
  constructor
  · rintro ⟨⟨a, rest'⟩, ha, h⟩
    cases h
    exact ⟨a, ha, rfl⟩
  · rintro ⟨a, ha, rfl⟩
    exact ⟨(a, rest), ha, rfl⟩

theorem scan_restrict_eq_ok {d : Decoder α} {rule : α → Except String β} {b : β} :
    (d.restrict rule).scan budget ts = .ok (b, rest) ↔
      ∃ a, d.scan budget ts = .ok (a, rest) ∧ rule a = .ok b := by
  rw [restrict, bind_eq_ok]
  constructor
  · rintro ⟨⟨a, rest'⟩, ha, h⟩
    dsimp only at h
    split at h
    · next b' hrule =>
      cases pure_eq_ok.1 h
      exact ⟨a, ha, hrule⟩
    · cases h
  · rintro ⟨a, ha, hrule⟩
    refine ⟨(a, rest), ha, ?_⟩
    simp only [hrule]
    rfl

/-- A list is read from an array, item by item. -/
theorem scan_list_eq_ok {d : Decoder α} {expected : String} {as : List α} :
    (d.list expected).scan budget ts = .ok (as, rest) ↔
      ∃ b inner, budget = b + 1 ∧ ts = .openBracket :: inner ∧
        Reader.items (d.scan b) ts true inner = .ok (as, .closeBracket :: rest) := by
  have hscan (inner : List Token) : (d.list expected).scan budget (.openBracket :: inner) =
      Reader.inArray (fun b => Reader.items (d.scan b) (.openBracket :: inner) true) budget
        inner := rfl
  constructor
  · intro h
    cases ts with
    | nil => cases h
    | cons t inner =>
        cases t with
        | openBracket =>
            obtain ⟨b, hb, hitems⟩ := Reader.inArray_eq_ok.1 ((hscan inner).symm.trans h)
            exact ⟨b, inner, hb, rfl, hitems⟩
        | _ =>
            obtain ⟨found, -, h⟩ := bind_eq_ok.1 h
            cases h
  · rintro ⟨b, inner, hb, rfl, hitems⟩
    rw [hscan]
    exact Reader.inArray_eq_ok.2 ⟨b, hb, hitems⟩

/-- What stands between the brackets of a pair. -/
def pairBody (d : Decoder α) (e : Decoder β) (budget : Nat) : Reader (α × β) := fun ts => do
  let some ts ← Reader.nextItem true ts | .error (.invalidLength 0 pairName)
  let (x, ts) ← d.scan budget ts
  let some ts ← Reader.nextItem false ts | .error (.invalidLength 1 pairName)
  let (y, ts) ← e.scan budget ts
  return ((x, y), ts)

theorem pairBody_eq_ok {d : Decoder α} {e : Decoder β} {p : α × β} :
    pairBody d e budget ts = .ok (p, rest) ↔
      ∃ ts₁ ts₂ ts₃, Reader.nextItem true ts = .ok (some ts₁) ∧
        d.scan budget ts₁ = .ok (p.1, ts₂) ∧ Reader.nextItem false ts₂ = .ok (some ts₃) ∧
        e.scan budget ts₃ = .ok (p.2, rest) := by
  constructor
  · intro h
    obtain ⟨next₁, hnext₁, h⟩ := bind_eq_ok.1 h
    rcases next₁ with _ | ts₁
    · cases h
    obtain ⟨⟨x, ts₂⟩, hx, h⟩ := bind_eq_ok.1 h
    obtain ⟨next₂, hnext₂, h⟩ := bind_eq_ok.1 h
    rcases next₂ with _ | ts₃
    · cases h
    obtain ⟨⟨y, ts₄⟩, hy, h⟩ := bind_eq_ok.1 h
    cases pure_eq_ok.1 h
    exact ⟨ts₁, ts₂, ts₃, hnext₁, hx, hnext₂, hy⟩
  · rintro ⟨ts₁, ts₂, ts₃, hnext₁, hx, hnext₂, hy⟩
    simp only [pairBody, bind, Except.bind, hnext₁, hx, hnext₂, hy]
    rfl

/-- A pair is read from an array of two items. -/
theorem scan_pair_eq_ok {d : Decoder α} {e : Decoder β} {p : α × β} :
    (d.pair e).scan budget ts = .ok (p, rest) ↔
      ∃ b inner, budget = b + 1 ∧ ts = .openBracket :: inner ∧
        pairBody d e b inner = .ok (p, .closeBracket :: rest) := by
  have hscan (inner : List Token) : (d.pair e).scan budget (.openBracket :: inner) =
      Reader.inArray (pairBody d e) budget inner := rfl
  constructor
  · intro h
    cases ts with
    | nil => cases h
    | cons t inner =>
        cases t with
        | openBracket =>
            obtain ⟨b, hb, hbody⟩ := Reader.inArray_eq_ok.1 ((hscan inner).symm.trans h)
            exact ⟨b, inner, hb, rfl, hbody⟩
        | _ =>
            obtain ⟨found, -, h⟩ := bind_eq_ok.1 h
            cases h
  · rintro ⟨b, inner, hb, rfl, hbody⟩
    rw [hscan]
    exact Reader.inArray_eq_ok.2 ⟨b, hb, hbody⟩

/-- A member of a table. -/
def tableMember (d : Decoder α) (put : σ → String → α → σ) (budget : Nat) (s : σ)
    (key : String) : Reader σ := fun ts => do
  let ts ← Reader.afterColon ts
  let (a, ts) ← d.scan budget ts
  return (put s key a, ts)

theorem tableMember_eq_ok {d : Decoder α} {put : σ → String → α → σ} {s s' : σ}
    {key : String} :
    tableMember d put budget s key ts = .ok (s', rest) ↔
      ∃ ts₁ a, ts = .colon :: ts₁ ∧ d.scan budget ts₁ = .ok (a, rest) ∧ put s key a = s' := by
  rw [tableMember, bind_eq_ok]
  constructor
  · rintro ⟨ts₁, hcolon, h⟩
    obtain ⟨⟨a, ts₂⟩, ha, h⟩ := bind_eq_ok.1 h
    cases pure_eq_ok.1 h
    exact ⟨ts₁, a, Reader.afterColon_eq_ok.1 hcolon, ha, rfl⟩
  · rintro ⟨ts₁, a, rfl, ha, rfl⟩
    exact ⟨ts₁, rfl, bind_eq_ok.2 ⟨(a, rest), ha, rfl⟩⟩

/-- A table is read from an object, member by member. -/
theorem scan_table_eq_ok {d : Decoder α} {start s : σ} {put : σ → String → α → σ} :
    (d.table start put).scan budget ts = .ok (s, rest) ↔
      ∃ b inner, budget = b + 1 ∧ ts = .openBrace :: inner ∧
        Reader.members (tableMember d put b) ts true start inner =
          .ok (s, .closeBrace :: rest) := by
  have hscan (inner : List Token) : (d.table start put).scan budget (.openBrace :: inner) =
      Reader.inObject (fun b => Reader.members (tableMember d put b) (.openBrace :: inner) true
        start) budget inner := rfl
  constructor
  · intro h
    cases ts with
    | nil => cases h
    | cons t inner =>
        cases t with
        | openBrace =>
            obtain ⟨b, hb, hbody⟩ := Reader.inObject_eq_ok.1 ((hscan inner).symm.trans h)
            exact ⟨b, inner, hb, rfl, hbody⟩
        | _ =>
            obtain ⟨found, -, h⟩ := bind_eq_ok.1 h
            cases h
  · rintro ⟨b, inner, hb, rfl, hbody⟩
    rw [hscan]
    exact Reader.inObject_eq_ok.2 ⟨b, hb, hbody⟩

end Decoder

/-! ### Records -/

namespace Layout

variable {σ α : Type} {l : Layout σ α} {budget : Nat} {ts rest : List Token}

/-- A member whose key is known sets its field, which has not been set before. -/
theorem scanMember_known_eq_ok {s s' : σ} {key : String} {f : Field σ}
    (hf : l.fields.find? (·.name == key) = some f) :
    l.scanMember budget s key ts = .ok (s', rest) ↔ f.isSet s = false ∧
      ∃ ts₁ change, ts = .colon :: ts₁ ∧ f.content.scan budget ts₁ = .ok (change, rest) ∧
        change s = s' := by
  rw [scanMember, hf]
  dsimp only
  cases f.isSet s with
  | true =>
      constructor
      · intro h
        cases h
      · intro ⟨h, _⟩
        cases h
  | false =>
      rw [if_neg Bool.false_ne_true, bind_eq_ok]
      constructor
      · intro ⟨ts₁, hcolon, h⟩
        obtain ⟨⟨change, ts₂⟩, hchange, h⟩ := bind_eq_ok.1 h
        cases pure_eq_ok.1 h
        exact ⟨rfl, ts₁, change, Reader.afterColon_eq_ok.1 hcolon, hchange, rfl⟩
      · rintro ⟨-, ts₁, change, rfl, hchange, rfl⟩
        exact ⟨ts₁, rfl, bind_eq_ok.2 ⟨(change, rest), hchange, rfl⟩⟩

/-- A member whose key is not known is passed over. -/
theorem scanMember_unknown_eq_ok {s s' : σ} {key : String}
    (hf : l.fields.find? (·.name == key) = none) :
    l.scanMember budget s key ts = .ok (s', rest) ↔
      s = s' ∧ ∃ ts₁, ts = .colon :: ts₁ ∧ passOver [] .value ts₁ = .ok rest := by
  rw [scanMember, hf]
  dsimp only
  rw [bind_eq_ok]
  constructor
  · intro ⟨ts₁, hcolon, h⟩
    obtain ⟨ts₂, hpass, h⟩ := bind_eq_ok.1 h
    cases pure_eq_ok.1 h
    exact ⟨rfl, ts₁, Reader.afterColon_eq_ok.1 hcolon, hpass⟩
  · rintro ⟨rfl, ts₁, rfl, hpass⟩
    exact ⟨ts₁, rfl, bind_eq_ok.2 ⟨rest, hpass, rfl⟩⟩

/-- The record of a draft that has been read. -/
def finish (l : Layout σ α) (draft : Except Problem (σ × List Token)) :
    Except Problem (α × List Token) := do
  let (s, ts) ← draft
  let a ← l.build s
  return (a, ts)

theorem finish_eq_ok {draft : Except Problem (σ × List Token)} {a : α} :
    l.finish draft = .ok (a, rest) ↔ ∃ s, draft = .ok (s, rest) ∧ l.build s = .ok a := by
  rw [finish, bind_eq_ok]
  constructor
  · rintro ⟨⟨s, ts⟩, hs, h⟩
    obtain ⟨a', ha, h⟩ := bind_eq_ok.1 h
    cases pure_eq_ok.1 h
    exact ⟨s, hs, ha⟩
  · rintro ⟨s, hs, ha⟩
    exact ⟨(s, rest), hs, bind_eq_ok.2 ⟨a, ha, rfl⟩⟩

/-- A record is built from the draft that the members of an object or the items of an array
make. -/
theorem scan_record_eq_ok {a : α} :
    (Decoder.record l).scan budget ts = .ok (a, rest) ↔
      ∃ b inner s, budget = b + 1 ∧ l.build s = .ok a ∧
        ((ts = .openBrace :: inner ∧ Reader.members (l.scanMember b) ts true l.empty inner =
            .ok (s, .closeBrace :: rest)) ∨
          (ts = .openBracket :: inner ∧
            l.scanItems b 0 l.empty l.fields inner = .ok (s, .closeBracket :: rest))) := by
  have hobject (inner : List Token) : (Decoder.record l).scan budget (.openBrace :: inner) =
      Reader.inObject (fun b ts => l.finish
        (Reader.members (l.scanMember b) (.openBrace :: inner) true l.empty ts)) budget inner := rfl
  have harray (inner : List Token) : (Decoder.record l).scan budget (.openBracket :: inner) =
      Reader.inArray (fun b ts => l.finish (l.scanItems b 0 l.empty l.fields ts)) budget
        inner := rfl
  constructor
  · intro h
    cases ts with
    | nil => cases h
    | cons t inner =>
        cases t with
        | openBrace =>
            obtain ⟨b, hb, hbody⟩ := Reader.inObject_eq_ok.1 ((hobject inner).symm.trans h)
            obtain ⟨s, hs, ha⟩ := finish_eq_ok.1 hbody
            exact ⟨b, inner, s, hb, ha, .inl ⟨rfl, hs⟩⟩
        | openBracket =>
            obtain ⟨b, hb, hbody⟩ := Reader.inArray_eq_ok.1 ((harray inner).symm.trans h)
            obtain ⟨s, hs, ha⟩ := finish_eq_ok.1 hbody
            exact ⟨b, inner, s, hb, ha, .inr ⟨rfl, hs⟩⟩
        | _ =>
            obtain ⟨found, -, h⟩ := bind_eq_ok.1 h
            cases h
  · rintro ⟨b, inner, s, hb, ha, ⟨rfl, hs⟩ | ⟨rfl, hs⟩⟩
    · rw [hobject]
      exact Reader.inObject_eq_ok.2 ⟨b, hb, finish_eq_ok.2 ⟨s, hs, ha⟩⟩
    · rw [harray]
      exact Reader.inArray_eq_ok.2 ⟨b, hb, finish_eq_ok.2 ⟨s, hs, ha⟩⟩

end Layout

/-! ### Variants -/

namespace Variant

variable {α : Type} {vs : List (Variant α)} {budget : Nat} {ts rest : List Token}

theorem scanMember_eq_ok {a : α} :
    scanMember vs budget ts = .ok (a, rest) ↔
      ∃ key ts₁ v, Reader.nextKey true ts = .ok (some (.text (.ok key) :: .colon :: ts₁)) ∧
        named vs key = .ok v ∧ v.content.scan budget ts₁ = .ok (a, rest) := by
  rw [scanMember, bind_eq_ok]
  constructor
  · rintro ⟨next, hnext, h⟩
    rcases next with _ | ts₀
    · cases h
    obtain ⟨⟨key, ts₁⟩, hkey, h⟩ := bind_eq_ok.1 h
    obtain ⟨v, hv, h⟩ := bind_eq_ok.1 h
    obtain ⟨ts₂, hcolon, hcontent⟩ := bind_eq_ok.1 h
    rw [Reader.textAs_eq_ok.1 hkey, Reader.afterColon_eq_ok.1 hcolon] at hnext
    exact ⟨key, ts₂, v, hnext, hv, hcontent⟩
  · rintro ⟨key, ts₁, v, hnext, hv, h⟩
    refine ⟨_, hnext, ?_⟩
    simp only [bind, Except.bind, Reader.textAs, hv, Reader.afterColon, h]

theorem endMember_eq_ok : endMember ts = .ok rest ↔ ts = .closeBrace :: rest := by
  constructor
  · intro h
    unfold endMember at h
    split at h
    · cases h
      rfl
    · cases h
    · cases h
  · rintro rfl
    rfl

/-- A variant is read from its name, or from an object with a single member. -/
theorem scan_variants_eq_ok {a : α} :
    (Decoder.variants vs).scan budget ts = .ok (a, rest) ↔
      (∃ name v, ts = .text (.ok name) :: rest ∧ named vs name = .ok v ∧ v.alone = .ok a) ∨
      ∃ b inner, budget = b + 1 ∧ ts = .openBrace :: inner ∧
        scanMember vs b inner = .ok (a, .closeBrace :: rest) := by
  have hscan : (Decoder.variants vs).scan budget ts = scanOne vs budget ts := rfl
  rw [hscan]
  constructor
  · intro h
    unfold scanOne at h
    split at h
    · next name rest' =>
      obtain ⟨key, hkey, h⟩ := bind_eq_ok.1 h
      obtain ⟨v, hv, h⟩ := bind_eq_ok.1 h
      obtain ⟨a', ha, h⟩ := bind_eq_ok.1 h
      cases pure_eq_ok.1 h
      exact .inl ⟨key, v, by rw [hkey], hv, ha⟩
    · cases h
    · next inner =>
      split at h
      · cases h
      · next b =>
        obtain ⟨⟨a', ts₁⟩, hmember, h⟩ := bind_eq_ok.1 h
        obtain ⟨ts₂, hend, h⟩ := bind_eq_ok.1 h
        cases pure_eq_ok.1 h
        rw [endMember_eq_ok.1 hend] at hmember
        exact .inr ⟨b, inner, rfl, rfl, hmember⟩
    · cases h
    · cases h
  · rintro (⟨name, v, rfl, hv, ha⟩ | ⟨b, inner, rfl, rfl, hmember⟩)
    · simp only [scanOne, bind, Except.bind, hv, ha]
      rfl
    · simp only [scanOne, bind, Except.bind, hmember, endMember]
      rfl

end Variant

end ParserTables.Json
