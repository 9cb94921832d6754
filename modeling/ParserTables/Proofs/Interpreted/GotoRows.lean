import Mathlib.Data.List.Perm.Subperm
import ParserTables.Proofs.Grammar.Symbol
import ParserTables.Proofs.Interpreted.Tables

/-!
# Goto rows of the interpreted target

A goto row becomes a dictionary whose keys are the nonterminals in grammar notation. Where two
nonterminals are written alike, the later entry replaces the earlier one, and a transition is lost.
The checks ask for distinct names of variants, which does not exclude this: the rows survive
exactly if the notation tells the nonterminals apart that a parser looks up.
-/

namespace ParserTables

open ParserTables.Grammar

namespace OrderedMap

variable {κ ν : Type} [DecidableEq κ]

/-- The map that a dictionary display makes: of the entries with one key, the last one gives the
value. -/
def ofEntries (es : List (κ × ν)) : OrderedMap κ ν :=
  es.foldl (fun m e => m.insert e.1 e.2) empty

theorem mem_keys_foldl_insert {m : OrderedMap κ ν} {es : List (κ × ν)} {k : κ} :
    k ∈ (es.foldl (fun m e => m.insert e.1 e.2) m).keys ↔ k ∈ m.keys ∨ k ∈ es.map Prod.fst := by
  induction es generalizing m with
  | nil => simp
  | cons e es ih =>
      rw [List.foldl_cons, ih, keys, entries_insert, mem_keys_insertEntry, List.map_cons,
        List.mem_cons, or_left_comm, or_assoc]
      rfl

theorem mem_keys_ofEntries {es : List (κ × ν)} {k : κ} :
    k ∈ (ofEntries es).keys ↔ k ∈ es.map Prod.fst := by
  rw [ofEntries, mem_keys_foldl_insert]
  simp [empty, keys]

theorem entries_ofEntries {es : List (κ × ν)} (h : (es.map Prod.fst).Nodup) :
    (ofEntries es).entries = es :=
  (entries_foldl_insert empty h).trans (List.nil_append es)

/-- No entry is lost exactly if the keys are distinct. -/
theorem size_ofEntries_eq_iff {es : List (κ × ν)} :
    (ofEntries es).size = es.length ↔ (es.map Prod.fst).Nodup := by
  constructor
  · intro h
    have hsub : (ofEntries es).keys.Subperm (es.map Prod.fst) :=
      List.subperm_of_subset (ofEntries es).distinct fun k hk => mem_keys_ofEntries.1 hk
    have hlen : (es.map Prod.fst).length ≤ (ofEntries es).keys.length := by
      rw [List.length_map, keys, List.length_map]
      exact Nat.le_of_eq h.symm
    exact (hsub.perm_of_length_le hlen).nodup_iff.1 (ofEntries es).distinct
  · intro h
    rw [size, entries_ofEntries h]

theorem exists_get?_of_mem_keys {m : OrderedMap κ ν} {k : κ} (h : k ∈ m.keys) :
    ∃ v, m.get? k = some v := by
  rw [← Option.isSome_iff_exists, ← Option.ne_none_iff_isSome]
  intro hnone
  obtain ⟨e, he, rfl⟩ := List.mem_map.1 h
  simpa using List.lookup_eq_none_iff.1 hnone e he

theorem mem_keys_of_get? {m : OrderedMap κ ν} {k : κ} {v : ν} (h : m.get? k = some v) :
    k ∈ m.keys := by
  obtain ⟨before, after, heq, -⟩ := List.lookup_eq_some_iff.1 h
  rw [keys, heq]
  simp

end OrderedMap

namespace Interpreted

open ParserTables.Source

/-- The entries of the dictionary that a goto row is written as. -/
def gotoEntries (s : State) : List (String × Nat) :=
  s.gotos.entries.map fun e => (e.1.pretty, e.2)

/-- The nonterminals that are looked up in goto rows: those with a transition, and those that a
reduction names. -/
def LookedUp (a : Automaton) (nt : Nonterminal) : Prop :=
  nt ∈ a.liveNonterminals ∨ ∃ p ∈ a.productions, p.goal = false ∧ p.nt = nt

/-- The dictionary of a state has as many keys as the row has entries, and a nonterminal that is
looked up finds its own transition, if it has one. -/
structure KeepsRow (a : Automaton) (s : State) : Prop where
  size : (OrderedMap.ofEntries (gotoEntries s)).size = s.gotos.size
  selects : ∀ nt, LookedUp a nt →
    (OrderedMap.ofEntries (gotoEntries s)).get? nt.pretty = s.gotos.get? nt

variable {a : Automaton} {s : State}

theorem map_fst_gotoEntries (s : State) :
    (gotoEntries s).map Prod.fst = s.gotos.keys.map Nonterminal.pretty := by
  simp [gotoEntries, OrderedMap.keys, Function.comp_def]

theorem KeepsRow.nodup (h : KeepsRow a s) : (s.gotos.keys.map Nonterminal.pretty).Nodup := by
  rw [← map_fst_gotoEntries, ← OrderedMap.size_ofEntries_eq_iff, h.size, gotoEntries,
    List.length_map]
  rfl

theorem lookup_map_pretty {es : List (Nonterminal × Nat)} {nt : Nonterminal}
    (h : ∀ e ∈ es, nt.pretty = e.1.pretty → nt = e.1) :
    (es.map fun e => (e.1.pretty, e.2)).lookup nt.pretty = es.lookup nt := by
  induction es with
  | nil => rfl
  | cons e es ih =>
      rw [List.forall_mem_cons] at h
      have hbeq : (nt.pretty == e.1.pretty) = (nt == e.1) := by
        rw [Bool.eq_iff_iff, beq_iff_eq, beq_iff_eq]
        exact ⟨h.1, congrArg _⟩
      rw [List.map_cons, List.lookup_cons, List.lookup_cons, hbeq, ih h.2]

/-- All rows are kept exactly if no nonterminal with a transition is written like another one that
is looked up. -/
theorem forall_keepsRow_iff (a : Automaton) :
    (∀ s ∈ a.states, KeepsRow a s) ↔
      ∀ nt ∈ a.liveNonterminals, ∀ nt', LookedUp a nt' → nt.pretty = nt'.pretty → nt = nt' := by
  constructor
  · intro h nt hlive nt' hup heq
    obtain ⟨s, hs, hmem⟩ := Automaton.mem_liveNonterminals.1 hlive
    obtain ⟨target, htarget⟩ := OrderedMap.exists_get?_of_mem_keys hmem
    -- The other nonterminal finds the transition too, so both stand in this row.
    have hother : s.gotos.get? nt' = some target := by
      rw [← (h s hs).selects nt' hup, ← heq, (h s hs).selects nt (.inl hlive), htarget]
    exact List.inj_on_of_nodup_map (h s hs).nodup hmem (OrderedMap.mem_keys_of_get? hother) heq
  · intro h s hs
    have hkeys : ∀ nt ∈ s.gotos.keys, nt ∈ a.liveNonterminals := fun nt hnt =>
      Automaton.mem_liveNonterminals.2 ⟨s, hs, hnt⟩
    have hnodup : ((gotoEntries s).map Prod.fst).Nodup := by
      rw [map_fst_gotoEntries]
      exact List.Nodup.map_on (fun x hx y hy => h x (hkeys x hx) y (.inl (hkeys y hy)))
        s.gotos.distinct
    constructor
    · rw [OrderedMap.size_ofEntries_eq_iff.2 hnodup, gotoEntries, List.length_map]
      rfl
    · intro nt hup
      rw [OrderedMap.get?, OrderedMap.entries_ofEntries hnodup]
      refine lookup_map_pretty fun e he heq => ?_
      exact (h e.1 (hkeys _ (List.mem_map_of_mem he)) nt hup heq.symm).symm

/-- The goto rows of a rendered document are read with every nonterminal in grammar notation, and
every reduction names its nonterminal in this way. The dictionaries keep the rows exactly if no
nonterminal with a transition is written like another one that is looked up. Nonterminals with
simple names and parameters are never written alike. -/
theorem goto_rows_kept_iff {settings : Settings} {text : String}
    (h : render settings .interpreted a = .ok text) :
    ∃ u, sourceUnit settings.interpreted.package a = .ok u ∧ text = Source.text u.lines ∧
      definition? "ctns = " (list? (dictionary? text? natural?)) '\n' u.lines =
        some (a.states.map gotoEntries) ∧
      (∀ i p, a.productions[i]? = some p → p.goal = false →
        ∃ r ∈ u.reductions, r.index = i ∧ r.nonterminal = p.nt.pretty ∧ r.lines <:+: u.lines) ∧
      ((∀ s ∈ a.states, KeepsRow a s) ↔
        ∀ nt ∈ a.liveNonterminals, ∀ nt', LookedUp a nt' → nt.pretty = nt'.pretty → nt = nt') ∧
      ((∀ nt, LookedUp a nt → nt.IsSimple) → ∀ s ∈ a.states, KeepsRow a s) := by
  obtain ⟨-, u, hu, htext⟩ := render_interpreted_eq_ok_iff.1 h
  refine ⟨u, hu, htext, definition?_gotos hu, fun i p hp hgoal => ?_, forall_keepsRow_iff a,
    fun hsimple => (forall_keepsRow_iff a).2 fun nt hlive nt' hup => ?_⟩
  · obtain ⟨r, hr, hred, -⟩ := exists_reduction hu hp hgoal
    obtain ⟨e, -, rfl⟩ := reductionOf_eq_ok hred
    exact ⟨_, hr, rfl, rfl, lines_infix hr⟩
  · exact Nonterminal.pretty_inj_of_isSimple (hsimple nt (.inl hlive)) (hsimple nt' hup)

/-- A state with two nonterminals that are written alike: one has a parameter, and the other has a
name with brackets. Their variants are `AIn` and `A[+In]`, so the checks tell them apart. -/
def lookalikes : Automaton where
  grammar := .empty
  states := [⟨.empty, ⟨[(.plain "A[+In]", 1), (⟨"A", [("In", true)]⟩, 2)], by decide⟩, none, none⟩]
  productions := []
  goals := .empty

/-- The row has two entries, and its dictionary has one, which leads to the second state from both
nonterminals. -/
theorem goto_rows_kept_iff_lookalikes :
    ∃ text, ∃ u : SourceUnit, render {} .interpreted lookalikes = .ok text ∧
      text = Source.text u.lines ∧
      definition? "ctns = " (list? (dictionary? text? natural?)) '\n' u.lines =
        some [[("A[+In]", 1), ("A[+In]", 2)]] ∧
      (OrderedMap.ofEntries [("A[+In]", 1), ("A[+In]", 2)]).entries = [("A[+In]", 2)] ∧
      ¬ ∀ s ∈ lookalikes.states, KeepsRow lookalikes s := by
  have hok : (render {} .interpreted lookalikes).isOk = true := by decide +kernel
  cases hr : render {} .interpreted lookalikes with
  | error f => rw [hr] at hok; cases hok
  | ok text =>
      obtain ⟨u, -, htext, hrows, -, hiff, -⟩ := goto_rows_kept_iff hr
      have hlive : ∀ nt ∈ [Nonterminal.plain "A[+In]", ⟨"A", [("In", true)]⟩],
          nt ∈ lookalikes.liveNonterminals := by decide
      refine ⟨text, u, rfl, htext, hrows, by decide, fun hkept => ?_⟩
      have heq := hiff.1 hkept _ (hlive (.plain "A[+In]") (by simp)) ⟨"A", [("In", true)]⟩
        (.inl (hlive _ (by simp))) (by decide)
      exact absurd heq (by decide)

end Interpreted

end ParserTables
