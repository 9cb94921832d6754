import Mathlib.Data.List.Nodup
import ParserTables.Proofs.Generation.Rendering

/-!
# The methods of the default builder

How a call finds a method of the default builder. The builder is a class, and the language stores a
method of a class under its name, unless the name is private: a name with two underscores in front
is spelled out with the name of the class when it stands inside the class, and only there. A call
from outside looks for the name as it is. A later method under a name replaces an earlier one.

So a call gets to the method of its tag exactly if the name of the tag is not private, and no later
method is stored under it (`exists_method?_iff`).
-/

namespace ParserTables.Interpreted

open ParserTables.Grammar ParserTables.Naming

/-! ### Names of the language -/

/-- The words that the language keeps for itself. -/
def keywords : List String :=
  ["False", "None", "True", "and", "as", "assert", "async", "await", "break", "class", "continue",
    "def", "del", "elif", "else", "except", "finally", "for", "from", "global", "if", "import",
    "in", "is", "lambda", "nonlocal", "not", "or", "pass", "raise", "return", "try", "while",
    "with", "yield"]

/-- There are two underscores in front of the name, but not behind it. -/
def IsPrivate (name : String) : Prop :=
  ['_', '_'] <+: name.toList ∧ ¬ ['_', '_'] <:+ name.toList

/-- There are two underscores in front of the name and behind it. Such names have a meaning of their
own in the language. -/
def IsSpecial (name : String) : Prop :=
  ['_', '_'] <+: name.toList ∧ ['_', '_'] <:+ name.toList

instance (name : String) : Decidable (IsPrivate name) :=
  inferInstanceAs (Decidable (_ ∧ _))

instance (name : String) : Decidable (IsSpecial name) :=
  inferInstanceAs (Decidable (_ ∧ _))

/-- What the language makes of characters beyond ASCII in names. -/
structure Alphabet where
  /-- Whether a character beyond ASCII can stand in a name, be it the first one or not. -/
  isLetter : Bool → Char → Bool
  /-- The form in which names are compared. -/
  normal : String → String

namespace Alphabet

variable (A : Alphabet)

/-- Whether a character can stand in a name, be it the first one or not. -/
def allows (first : Bool) (c : Char) : Bool :=
  if c.toNat < 128 then c == '_' || c.isAlpha || (c.isDigit && !first) else A.isLetter first c

/-- Whether a text is a word of the language. -/
def isWord (name : String) : Bool :=
  match name.toList with
  | [] => false
  | c :: cs => A.allows true c && cs.all (A.allows false)

/-- A method can be given this name. -/
structure IsMethodName (name : String) : Prop where
  isWord : A.isWord name = true
  notKeyword : name ∉ keywords
  notSpecial : ¬ IsSpecial (A.normal name)

/-- The name under which the method of a tag is looked up. -/
def methodName (tag : String) : String := A.normal (interpretedMethod tag)

/-- The declared methods can be given their names, and these are distinct. -/
structure NamesMethods (g : Declarations) : Prop where
  names : ∀ tag ∈ g.methods.keys, A.IsMethodName (interpretedMethod tag)
  distinct : (g.methods.keys.map A.methodName).Nodup

end Alphabet

/-- The name under which the class of the default builder stores a method. -/
def attributeName (name : String) : String :=
  if IsPrivate name then "_DefaultBuilder" ++ name else name

theorem attributeName_of_not_isPrivate {name : String} (h : ¬ IsPrivate name) :
    attributeName name = name :=
  if_neg h

/-- A private name is not stored as it is. -/
theorem not_isPrivate_of_attributeName_eq_self {name : String} (h : attributeName name = name) :
    ¬ IsPrivate name := by
  intro hprivate
  rw [attributeName, if_pos hprivate] at h
  have hlength := congrArg (fun s : String => s.toList.length) h
  simp only [String.toList_append, List.length_append, Nat.add_eq_right] at hlength
  cases hlength

/-- Nothing is stored under a private name. -/
theorem attributeName_ne_of_isPrivate {name : String} (h : IsPrivate name) (other : String) :
    attributeName other ≠ name := by
  rw [attributeName]
  split
  · rintro rfl
    have hprefix := h.1
    simp at hprefix
  · next hother => exact fun heq => hother (heq ▸ h)

/-! ### Finding a method -/

/-- The method of the default builder that a call of this name finds. -/
def SourceUnit.method? (A : Alphabet) (u : SourceUnit) (name : String) : Option BuilderMethod :=
  u.methods.reverse.find? fun m => attributeName (A.normal m.name) = A.normal name

/-- A call by the name of this tag gets to its method: the name is not private, and it is not what
a private name that is declared later is spelled out to. -/
structure Alphabet.Reaches (A : Alphabet) (g : Declarations) (tag : String) : Prop where
  notPrivate : ¬ IsPrivate (A.methodName tag)
  notReplaced : ∀ before after, g.methods.keys = before ++ tag :: after → ∀ other ∈ after,
    IsPrivate (A.methodName other) → "_DefaultBuilder" ++ A.methodName other ≠ A.methodName tag

/-- Among distinct names, a call gets to its method exactly if the name is not private, and no later
method is stored under it. -/
theorem Alphabet.NamesMethods.reaches_iff {A : Alphabet} {g : Declarations}
    (hnames : A.NamesMethods g) {tag : String} :
    A.Reaches g tag ↔ ¬ IsPrivate (A.methodName tag) ∧
      ∀ before after, g.methods.keys = before ++ tag :: after → ∀ other ∈ after,
        attributeName (A.methodName other) ≠ A.methodName tag := by
  have hstored {before after : List String} (hkeys : g.methods.keys = before ++ tag :: after)
      {other : String} (hother : other ∈ after) :
      attributeName (A.methodName other) ≠ A.methodName tag ↔
        (IsPrivate (A.methodName other) →
          "_DefaultBuilder" ++ A.methodName other ≠ A.methodName tag) := by
    have hdistinct := hnames.distinct
    rw [hkeys, List.map_append, List.map_cons, List.nodup_append, List.nodup_cons] at hdistinct
    have hne : A.methodName other ≠ A.methodName tag := by
      intro heq
      exact hdistinct.2.1.1 (heq ▸ List.mem_map_of_mem hother)
    by_cases hprivate : IsPrivate (A.methodName other)
    · rw [attributeName, if_pos hprivate]
      exact ⟨fun h _ => h, fun h => h hprivate⟩
    · rw [attributeName, if_neg hprivate]
      exact iff_of_true hne fun h => absurd h hprivate
  refine ⟨fun h => ⟨h.notPrivate, fun before after hkeys other hother => ?_⟩,
    fun h => ⟨h.1, fun before after hkeys other hother => ?_⟩⟩
  · exact (hstored hkeys hother).2 (h.notReplaced before after hkeys other hother)
  · exact (hstored hkeys hother).1 (h.2 before after hkeys other hother)

theorem sourceUnit_methods {package : String} {a : Automaton} {u : SourceUnit}
    (h : sourceUnit package a = .ok u) :
    u.methods = a.grammar.methods.entries.map builderMethod := by
  obtain ⟨reductions, -, h⟩ := bind_eq_ok.1 h
  cases pure_eq_ok.1 h
  rfl

theorem tags_methods {package : String} {a : Automaton} {u : SourceUnit}
    (h : sourceUnit package a = .ok u) :
    u.methods.map BuilderMethod.tag = a.grammar.methods.keys := by
  rw [sourceUnit_methods h, List.map_map]
  rfl

theorem name_of_mem_methods {package : String} {a : Automaton} {u : SourceUnit}
    (h : sourceUnit package a = .ok u) {m : BuilderMethod} (hm : m ∈ u.methods) :
    m.name = interpretedMethod m.tag := by
  rw [sourceUnit_methods h] at hm
  obtain ⟨entry, -, rfl⟩ := List.mem_map.1 hm
  rfl

section Finding

variable {A : Alphabet} {package : String} {a : Automaton} {u : SourceUnit} {tag : String}
  {s : Signature}

/-- A call that gets to the method of a tag finds it. -/
theorem method?_of_reaches (h : sourceUnit package a = .ok u) (hnames : A.NamesMethods a.grammar)
    (hs : a.grammar.method? tag = some s) (hreaches : A.Reaches a.grammar tag) :
    u.method? A (interpretedMethod tag) = some (builderMethod (tag, s)) := by
  obtain ⟨hprivate, hreplaced⟩ := hnames.reaches_iff.1 hreaches
  obtain ⟨before, after, hentries, -⟩ := List.lookup_eq_some_iff.1 hs
  have hkeys : a.grammar.methods.keys = before.map Prod.fst ++ tag :: after.map Prod.fst := by
    rw [OrderedMap.keys, hentries, List.map_append, List.map_cons]
  have hafter : ∀ m ∈ (after.map builderMethod).reverse,
      ¬ attributeName (A.normal m.name) = A.normal (interpretedMethod tag) := by
    intro m hm
    obtain ⟨other, hother, rfl⟩ := List.mem_map.1 (List.mem_reverse.1 hm)
    exact hreplaced _ _ hkeys other.1 (List.mem_map_of_mem hother)
  rw [SourceUnit.method?, sourceUnit_methods h, hentries, List.map_append, List.map_cons,
    List.reverse_append, List.reverse_cons, List.append_assoc, List.singleton_append,
    List.find?_append, List.find?_eq_none.2 (by simpa using hafter), Option.none_or]
  exact List.find?_cons_of_pos
    (decide_eq_true (attributeName_of_not_isPrivate hprivate))

/-- A call by the name of a tag finds the method of the tag exactly if it gets there. -/
theorem exists_method?_iff (h : sourceUnit package a = .ok u) (hnames : A.NamesMethods a.grammar)
    (hs : a.grammar.method? tag = some s) :
    (∃ m, u.method? A (interpretedMethod tag) = some m ∧ m.tag = tag ∧ m.arity = s.valueArity) ↔
      A.Reaches a.grammar tag := by
  refine ⟨?_, fun hreaches => ⟨_, method?_of_reaches h hnames hs hreaches, rfl, rfl⟩⟩
  rintro ⟨m, hm, rfl, -⟩
  obtain ⟨hfound, later, earlier, hmethods, hlater⟩ := List.find?_eq_some_iff_append.1 hm
  have hmem : ∀ m' ∈ later ++ m :: earlier, m' ∈ u.methods := by
    rw [← hmethods]
    exact fun m' => List.mem_reverse.1
  refine hnames.reaches_iff.2 ⟨?_, fun before after hkeys other hother => ?_⟩
  · have hname := name_of_mem_methods h (hmem m (List.mem_append_right _ List.mem_cons_self))
    rw [decide_eq_true_iff, hname] at hfound
    exact not_isPrivate_of_attributeName_eq_self hfound
  · -- The tag is declared once, so the methods that were passed are those of the later tags.
    have htags : a.grammar.methods.keys = earlier.reverse.map BuilderMethod.tag ++
        m.tag :: later.reverse.map BuilderMethod.tag := by
      rw [← tags_methods h, ← List.reverse_reverse u.methods, hmethods]
      simp
    have hnodup : (before ++ m.tag :: after).Nodup := hkeys ▸ a.grammar.methods.distinct
    rw [List.nodup_append, List.nodup_cons] at hnodup
    have hbefore : m.tag ∉ before := fun hmem => hnodup.2.2 _ hmem _ List.mem_cons_self rfl
    obtain ⟨-, -, rfl⟩ := (List.append_cons_inj_of_notMem hbefore hnodup.2.1.1).1
      (hkeys.symm.trans htags)
    obtain ⟨m', hm', rfl⟩ := List.mem_map.1 hother
    have hm' := List.mem_reverse.1 hm'
    have hunequal := hlater m' hm'
    rw [name_of_mem_methods h (hmem m' (List.mem_append_left _ hm'))] at hunequal
    simpa [Alphabet.methodName] using hunequal

/-- A call by a private name finds nothing. -/
theorem method?_of_isPrivate (h : IsPrivate (A.methodName tag)) :
    u.method? A (interpretedMethod tag) = none := by
  rw [SourceUnit.method?, List.find?_eq_none]
  intro m _ hm
  exact attributeName_ne_of_isPrivate h _ (of_decide_eq_true hm)

end Finding

end ParserTables.Interpreted
