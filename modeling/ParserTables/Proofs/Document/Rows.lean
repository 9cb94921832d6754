import Mathlib
import ParserTables.Proofs.Document.Reload
import ParserTables.Proofs.FirstFault
import ParserTables.Proofs.OrderedMap

/-!
# Rows

A row is given as a list of pairs. Once all of its pairs have been decoded, it depends on their keys
alone whether it is loaded, and nothing of what was given is lost in it (`rows_keep_pairs`). This
holds for a row that is read from a text, wherever it stands there, and for one that is taken from a
generic value. A row that has a pair which does not decode has the problem of its list of pairs,
whether a key is repeated before this pair or not.
-/

namespace ParserTables

theorem mapM_eq_ok_of_forall₂ {ε α β : Type} {f : α → Except ε β} {as : List α} {bs : List β}
    (h : List.Forall₂ (fun a b => f a = .ok b) as bs) : as.mapM f = .ok bs := by
  induction h with
  | nil => rfl
  | cons hb _ ih => exact mapM_cons_eq_ok.2 ⟨_, _, hb, ih, rfl⟩

namespace Json.Decoder

variable {α β : Type}

/-! ### Forms with a rule -/

theorem scan_restrict (d : Decoder α) (rule : α → Except String β) (budget : Nat)
    (ts : List Token) : (d.restrict rule).scan budget ts =
      d.scan budget ts >>= fun p => ((rule p.1).mapError Problem.refused).map (·, p.2) := by
  refine congrArg (d.scan budget ts >>= ·) (funext fun p => ?_)
  dsimp only
  cases rule p.1 <;> rfl

theorem accept_restrict (d : Decoder α) (rule : α → Except String β) (t : Tree) :
    (d.restrict rule).accept t =
      d.accept t >>= fun a => (rule a).mapError Problem.refused := by
  refine congrArg (d.accept t >>= ·) (funext fun a => ?_)
  cases rule a <;> rfl

/-! ### What forms give -/

/-- Whatever the form reads or takes has the property. -/
structure Gives (d : Decoder α) (P : α → Prop) : Prop where
  scan : ∀ budget ts a rest, d.scan budget ts = .ok (a, rest) → P a
  accept : ∀ t a, d.accept t = .ok a → P a

theorem gives_leaf {take : Found → Except Problem α} {P : α → Prop}
    (h : ∀ found a, take found = .ok a → P a) : (leaf take).Gives P where
  scan budget ts a rest ha := by
    obtain ⟨-, found, -, -, ha⟩ := scan_leaf_eq_ok.1 ha
    exact h found a ha
  accept t a ha := h t.found a ha

theorem Gives.of_forall {d : Decoder α} {P : α → Prop} (h : ∀ a, P a) : d.Gives P :=
  ⟨fun _ _ a _ _ => h a, fun _ a _ => h a⟩

theorem Gives.imp {d : Decoder α} {P Q : α → Prop} (h : d.Gives P) (hPQ : ∀ a, P a → Q a) :
    d.Gives Q where
  scan budget ts a rest ha := hPQ a (h.scan budget ts a rest ha)
  accept t a ha := hPQ a (h.accept t a ha)

theorem gives_integer : integer.Gives fun n => n < Int.ofNat Text.signedBound := by
  refine gives_leaf fun found n hn => ?_
  split at hn
  · split at hn
    · next hlt =>
      cases hn
      exact hlt
    · cases hn
  · cases hn

theorem Gives.pair_snd {d : Decoder α} {e : Decoder β} {Q : β → Prop} (he : e.Gives Q) :
    (d.pair e).Gives fun p => Q p.2 where
  scan budget ts p rest hp := by
    obtain ⟨b, inner, -, -, hbody⟩ := scan_pair_eq_ok.1 hp
    obtain ⟨ts₁, ts₂, ts₃, -, -, -, hy⟩ := pairBody_eq_ok.1 hbody
    exact he.scan b ts₃ p.2 _ hy
  accept t p hp := by
    unfold Decoder.pair at hp
    dsimp only at hp
    split at hp
    · cases hp
    · obtain ⟨a, -, hp⟩ := bind_eq_ok.1 hp
      cases hp
    · next x y more =>
      obtain ⟨a, -, hp⟩ := bind_eq_ok.1 hp
      obtain ⟨b, hb, hp⟩ := bind_eq_ok.1 hp
      split at hp
      · cases pure_eq_ok.1 hp
        exact he.accept y b hb
      · cases hp
    · cases hp

theorem forall_of_items_eq_ok {item : Reader α} {P : α → Prop}
    (h : ∀ ts a rest, item ts = .ok (a, rest) → P a) (bound : List Token) (first : Bool)
    (ts : List Token) (as : List α) (rest : List Token)
    (has : Reader.items item bound first ts = .ok (as, rest)) : ∀ a ∈ as, P a := by
  induction bound generalizing first ts as with
  | nil => cases has
  | cons b bound ih =>
      obtain ⟨next, -, has⟩ := bind_eq_ok.1 has
      rcases next with _ | ts₁
      · cases pure_eq_ok.1 has
        exact nofun
      · obtain ⟨⟨a, ts₂⟩, ha, has⟩ := bind_eq_ok.1 has
        obtain ⟨⟨further, ts₃⟩, hfurther, has⟩ := bind_eq_ok.1 has
        cases pure_eq_ok.1 has
        exact List.forall_mem_cons.2 ⟨h ts₁ a ts₂ ha, ih false ts₂ further hfurther⟩

theorem Gives.list {d : Decoder α} {P : α → Prop} (h : d.Gives P) (expected : String) :
    (d.list expected).Gives fun as => ∀ a ∈ as, P a where
  scan budget ts as rest has := by
    obtain ⟨b, inner, -, -, hitems⟩ := scan_list_eq_ok.1 has
    exact forall_of_items_eq_ok (h.scan b) _ _ _ _ _ hitems
  accept t as has a ha := by
    cases t with
    | array items =>
        obtain ⟨item, -, hitem⟩ := exists_of_mem_mapM has ha
        exact h.accept item a hitem
    | _ => cases has

end Json.Decoder

namespace Document

open ParserTables.Grammar ParserTables.Json

variable {κ ν : Type} [DecidableEq κ]

/-! ### Rows from pairs -/

section

variable (display : κ → String) (key : Decoder κ) (value : Decoder ν) (writeKey : κ → Tree)
  (writeValue : ν → Tree)

/-- How a row comes out for these pairs: it is loaded if no key is repeated, holds exactly the pairs
in their order, and is written as the list of them; otherwise it is refused for the earliest key
that repeats an earlier one. -/
structure Settles (pairs : List (κ × ν)) (result : Except Problem (OrderedMap κ ν)) : Prop where
  loaded_iff : (∃ m, result = .ok m) ↔ (pairs.map Prod.fst).Nodup
  entries_eq : ∀ m, result = .ok m → m.entries = pairs
  written : ∀ m, result = .ok m →
    rowTree writeKey writeValue m = .array (pairs.map fun p => .array [writeKey p.1, writeValue p.2])
  reads : ∀ m, result = .ok m →
    (Decoder.list (.pair key value) "a sequence").Reads (rowTree writeKey writeValue m) pairs
  refused : ¬ (pairs.map Prod.fst).Nodup → ∃ before k after,
    pairs.map Prod.fst = before ++ k :: after ∧ before.Nodup ∧ k ∈ before ∧
      result = .error (.refused ("duplicate key " ++ display k))

/-- A form of rows keeps the pairs it is given, and hands on the problem of a list of pairs that does
not decode. -/
structure KeepsPairs (d : Decoder (OrderedMap κ ν)) : Prop where
  scan : ∀ budget ts pairs rest,
    (Decoder.list (.pair key value) "a sequence").scan budget ts = .ok (pairs, rest) →
      ∃ result, Settles display key value writeKey writeValue pairs result ∧
        d.scan budget ts = result.map (·, rest)
  scan_error : ∀ budget ts problem,
    (Decoder.list (.pair key value) "a sequence").scan budget ts = .error problem →
      d.scan budget ts = .error problem
  accept : ∀ items pairs,
    List.Forall₂ (fun t p => (Decoder.pair key value).accept t = .ok p) items pairs →
      Settles display key value writeKey writeValue pairs (d.accept (.array items))
  accept_error : ∀ items problem,
    FirstFault (fun t => ∃ p, (Decoder.pair key value).accept t = .ok p)
      (fun t e => (Decoder.pair key value).accept t = .error e) items problem →
        d.accept (.array items) = .error problem

variable {display key value writeKey writeValue}

theorem settles_rowOf {pairs : List (κ × ν)} (hkey : ∀ k, key.Reads (writeKey k) k)
    (hvalue : ∀ p ∈ pairs, value.Reads (writeValue p.2) p.2) :
    Settles display key value writeKey writeValue pairs
      ((rowOf display pairs).mapError .refused) := by
  have hok : ∀ m, (rowOf display pairs).mapError Problem.refused = .ok m ↔
      OrderedMap.ofPairs? pairs = .ok m := fun m => by
    rw [mapError_eq_ok, rowOf, mapError_eq_ok]
  have hentries : ∀ m, (rowOf display pairs).mapError Problem.refused = .ok m →
      m.entries = pairs := fun m hm => OrderedMap.entries_of_ofPairs? ((hok m).1 hm)
  have hwritten : ∀ m, (rowOf display pairs).mapError Problem.refused = .ok m →
      rowTree writeKey writeValue m =
        .array (pairs.map fun p => .array [writeKey p.1, writeValue p.2]) := fun m hm => by
    rw [rowTree, listTree, hentries m hm]
  refine ⟨?_, hentries, hwritten, fun m hm => ?_, fun hrepeated => ?_⟩
  · simp only [hok]
    exact OrderedMap.exists_ofPairs?_eq_ok_iff
  · rw [hwritten m hm]
    exact Decoder.reads_map_list
      (fun p hp => Decoder.reads_pair (hkey p.1) (hvalue p hp)) _
  · cases h : OrderedMap.ofPairs? pairs with
    | ok m => exact absurd (OrderedMap.exists_ofPairs?_eq_ok_iff.1 ⟨m, h⟩) hrepeated
    | error k =>
        obtain ⟨before, after, hkeys, hnodup, hmem⟩ := OrderedMap.split_of_ofPairs?_eq_error h
        refine ⟨before, k, after, hkeys, hnodup, hmem, ?_⟩
        rw [rowOf, h]
        rfl

theorem keepsPairs_row (hkey : ∀ k, key.Reads (writeKey k) k)
    (hvalue : value.Gives fun v => value.Reads (writeValue v) v) :
    KeepsPairs display key value writeKey writeValue (row display key value) := by
  have hlist := hvalue.pair_snd (d := key).list "a sequence"
  refine ⟨fun budget ts pairs rest h => ?_, fun budget ts problem h => ?_,
    fun items pairs h => ?_, fun items problem h => ?_⟩
  · refine ⟨_, settles_rowOf hkey (hlist.scan budget ts pairs rest h), ?_⟩
    rw [row, Decoder.scan_restrict, h]
    rfl
  · rw [row, Decoder.scan_restrict, h]
    rfl
  · have hitems : (Decoder.list (.pair key value) "a sequence").accept (.array items) = .ok pairs :=
      mapM_eq_ok_of_forall₂ h
    rw [row, Decoder.accept_restrict, hitems]
    exact settles_rowOf hkey (hlist.accept _ pairs hitems)
  · have hitems : (Decoder.list (.pair key value) "a sequence").accept (.array items) =
        .error problem := (mapM_eq_error_iff (fun _ => Iff.rfl) fun _ _ => Iff.rfl).2 h
    rw [row, Decoder.accept_restrict, hitems]
    rfl

end

/-- Action rows keep the pairs they are given, and so do goto rows and the entry states of the
goals: whether a row is read from a text or taken from a generic value, once all of its pairs have
been decoded it is loaded exactly if no key is repeated. It then holds these pairs in their order,
and is written as the same list of pairs. If a key is repeated, the row is refused for the earliest
key that repeats an earlier one. -/
theorem rows_keep_pairs :
    KeepsPairs Terminal.display terminal .integer terminalTree (fun n => .number (.integer n))
        actionRow ∧
      KeepsPairs Nonterminal.pretty nonterminal .natural nonterminalTree .natural gotoRow :=
  ⟨keepsPairs_row reads_terminal (Decoder.gives_integer.imp fun _ => Decoder.reads_integer),
    keepsPairs_row reads_nonterminal (.of_forall fun n => Decoder.reads_natural n)⟩

/-- A goto row whose first key comes back as its third, and is written as an array there. -/
def repeatingRow : String :=
  "[[\x7b\"name\":\"Expr\",\"args\":[[\"In\",true]]\x7d,1],[\x7b\"name\":\"Expr\"\x7d,2]," ++
    "[[\"Expr\",[[\"In\",true]]],3]]"

/-- The pairs of `repeatingRow`. -/
def repeatingPairs : List (Nonterminal × Nat) :=
  [(⟨"Expr", [("In", true)]⟩, 1), (.plain "Expr", 2), (⟨"Expr", [("In", true)]⟩, 3)]

/-- The repeated key is named, and without its last pair the row is loaded. -/
theorem rows_keep_pairs_repeating :
    (Decoder.list (.pair nonterminal .natural) "a sequence").scan Reader.levels
        (tokens repeatingRow.toList) = .ok (repeatingPairs, []) ∧
      gotoRow.scan Reader.levels (tokens repeatingRow.toList) =
        .error (.refused "duplicate key Expr[+In]") ∧
      (∃ m, gotoRow.accept (.array ((repeatingPairs.take 2).map fun p =>
        .array [nonterminalTree p.1, .natural p.2])) = .ok m ∧ m.entries = repeatingPairs.take 2) := by
  have hpairs : (Decoder.list (.pair nonterminal .natural) "a sequence").scan Reader.levels
      (tokens repeatingRow.toList) = .ok (repeatingPairs, []) := by rfl
  obtain ⟨result, hresult, hscan⟩ := rows_keep_pairs.2.scan _ _ _ _ hpairs
  obtain ⟨before, k, after, hkeys, -, hk, hrefused⟩ := hresult.refused (by decide)
  refine ⟨hpairs, ?_, ?_⟩
  · have hkeyIn : k = ⟨"Expr", [("In", true)]⟩ := by
      rcases before with _ | ⟨x, _ | ⟨y, _ | ⟨z, before⟩⟩⟩
      · cases hk
      · cases hkeys
        exact absurd hk (by decide)
      · cases hkeys
        rfl
      · have hlength := congrArg List.length hkeys
        simp [repeatingPairs] at hlength
    rw [hscan, hrefused, hkeyIn]
    rfl
  · have hsettles := rows_keep_pairs.2.accept
      ((repeatingPairs.take 2).map fun p => .array [nonterminalTree p.1, .natural p.2])
      (repeatingPairs.take 2) (by decide)
    obtain ⟨m, hm⟩ := hsettles.loaded_iff.2 (by decide)
    exact ⟨m, hm, hsettles.entries_eq m hm⟩

end Document

end ParserTables
