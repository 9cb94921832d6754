import Mathlib
import ParserTables.Compiled.Type
import ParserTables.Proofs.Compiled.BoxPlaces
import ParserTables.Proofs.Grammar.Spelling
import ParserTables.Proofs.Naming.Shapes

/-!
# Types are told apart by their spellings

The spelling of a type of the target is the spelling of a tree of names, in which the lifetime of
the arena is one more argument. The tree can be read from the text. From the tree a grammar type is
read back: the names that are not paths say what they stand for, and a box is told from a declared
type of that name by the lifetime in front of its content. So two types that are spelled alike are
the same type, as long as no name brings a sign of its own into the text
(`spellings_keep_types_apart`).
-/

namespace ParserTables

open ParserTables.Grammar ParserTables.Naming ParserTables.Text

/-! ### Names of declared types -/

namespace Grammar.ValueType

/-- If the node is a declared type, its name is made of letters, digits and underscores. -/
def HasPlainName : ValueType → Prop
  | .named name _ => ∀ c ∈ name.toList, IsNameChar c
  | _ => True

/-- Every declared type in the type has a name of its own, which is made of letters, digits and
underscores. -/
def PlainlyNamed (t : ValueType) : Prop := ∀ node ∈ t.nodes, ¬ node.Misnamed ∧ node.HasPlainName

theorem mem_nodesOfList {node : ValueType} {ts : List ValueType} :
    node ∈ nodesOfList ts ↔ ∃ t ∈ ts, node ∈ t.nodes := by
  induction ts with
  | nil => simp [nodesOfList]
  | cons t ts ih => simp [nodesOfList, ih]

theorem PlainlyNamed.option {inner : ValueType} (h : (ValueType.option inner).PlainlyNamed) :
    inner.PlainlyNamed := (List.forall_mem_cons.1 h).2

theorem PlainlyNamed.sequence {inner : ValueType} (h : (ValueType.sequence inner).PlainlyNamed) :
    inner.PlainlyNamed := (List.forall_mem_cons.1 h).2

theorem PlainlyNamed.named {name : String} {args : List ValueType}
    (h : (ValueType.named name args).PlainlyNamed) :
    name ∉ reservedNames ∧ (∀ c ∈ name.toList, IsNameChar c) ∧ ∀ arg ∈ args, arg.PlainlyNamed := by
  obtain ⟨⟨hreserved, hname⟩, hargs⟩ := List.forall_mem_cons.1 h
  exact ⟨hreserved, hname, fun arg harg node hnode =>
    hargs node (mem_nodesOfList.2 ⟨arg, harg, hnode⟩)⟩

end Grammar.ValueType

namespace Compiled

/-! ### Paths -/

/-- What identifiers of any script are made of, and raw ones with their mark. -/
def IsIdentifier (text : List Char) : Prop :=
  text ≠ [] ∧ ∀ c ∈ text, isAscii c = true → IsNameChar c ∨ c = '#'

/-- A namespace is empty, or it is a path of identifiers. -/
def IsNamespace (space : String) : Prop :=
  ∃ names : List (List Char), (∀ name ∈ names, IsIdentifier name) ∧
    space.toList = joinWith [':', ':'] names

/-- What the paths of declared types are made of. -/
def IsPathChar (c : Char) : Prop := isAscii c = true → IsNameChar c ∨ c = '#' ∨ c = ':'

theorem IsPathChar.not_mem {c : Char} (h : IsPathChar c) : c ∉ ['<', '>', ',', '\'', '('] := by
  intro hmem
  simp only [List.mem_cons, List.not_mem_nil, or_false] at hmem
  rcases hmem with rfl | rfl | rfl | rfl | rfl
  all_goals simp [IsPathChar, IsNameChar, isAscii] at h

section Paths

variable {space name : String}

theorem toList_typePath (h : space ≠ "") :
    (typePath space name).toList = space.toList ++ ':' :: ':' :: name.toList := by
  rw [typePath, if_neg h, String.toList_append, String.toList_append, List.append_assoc]
  rfl

theorem isPathChar_of_mem_typePath (hspace : IsNamespace space)
    (hname : ∀ c ∈ name.toList, IsNameChar c) :
    ∀ c ∈ (typePath space name).toList, IsPathChar c := by
  have hname' : ∀ c ∈ name.toList, IsPathChar c := fun c hc _ => .inl (hname c hc)
  by_cases hempty : space = ""
  · rwa [typePath, if_pos hempty]
  obtain ⟨names, hnames, hjoin⟩ := hspace
  have hcolons : ∀ c ∈ [':', ':'], IsPathChar c := by simp [IsPathChar]
  have hspace' : ∀ c ∈ space.toList, IsPathChar c := by
    rw [hjoin]
    refine forall_mem_joinWith hcolons fun id hid c hc hascii => ?_
    exact ((hnames id hid).2 c hc hascii).imp_right .inl
  rw [toList_typePath hempty, List.forall_mem_append]
  exact ⟨hspace', List.forall_mem_append.2 ⟨hcolons, hname'⟩⟩

/-- A path is none of the names with a meaning of their own: it has a colon, unless it is the bare
name. -/
theorem typePath_not_mem_reservedNames (h : name ∉ reservedNames) :
    typePath space name ∉ reservedNames := by
  by_cases hempty : space = ""
  · rwa [typePath, if_pos hempty]
  intro hmem
  have hcolon : ':' ∈ (typePath space name).toList := by simp [toList_typePath hempty]
  have hnone : ∀ r ∈ reservedNames, ':' ∉ r.toList := by decide
  exact hnone _ hmem hcolon

/-- A path without the namespace in front. -/
def unqualified (space path : String) : String :=
  if space = "" then path else String.ofList (path.toList.drop (space.toList.length + 2))

theorem unqualified_typePath (space name : String) :
    unqualified space (typePath space name) = name := by
  by_cases hempty : space = ""
  · rw [unqualified, if_pos hempty, typePath, if_pos hempty]
  · rw [unqualified, if_neg hempty, toList_typePath hempty]
    simp [List.drop_append]

end Paths

/-! ### Types as trees of names -/

/-- The lifetime of the arena, which is an argument without arguments of its own. -/
def lifetime : WrittenType := .mk "'alloc" []

namespace TargetType

mutual

/-- The names that a type is written with. -/
def form : TargetType → WrittenType
  | .unit => .mk "()" []
  | .token => .mk "Token" [lifetime]
  | .option inner => .mk "Option" [inner.form]
  | .vector inner => .mk "Vec" [lifetime, inner.form]
  | .path name args => .mk name (forms args)
  | .box inner => .mk "Box" [lifetime, inner.form]

/-- The names that several types are written with. -/
def forms : List TargetType → List WrittenType
  | [] => []
  | t :: rest => t.form :: forms rest

end

theorem spelling_singleton (name : String) (arg : WrittenType) :
    WrittenType.spelling (.mk name [arg]) = name ++ "<" ++ arg.spelling ++ ">" := by
  simp [WrittenType.spelling, WrittenType.spellings, WrittenType.applied]

theorem spelling_lifetime_cons (name : String) (arg : WrittenType) :
    WrittenType.spelling (.mk name [lifetime, arg]) =
      name ++ "<'alloc, " ++ arg.spelling ++ ">" := by
  refine String.toList_injective ?_
  simp [WrittenType.spelling, WrittenType.spellings, WrittenType.applied, lifetime,
    intercalate_cons_eq_append_join]

mutual

theorem spelling_form : ∀ t : TargetType, t.form.spelling = t.written
  | .unit => rfl
  | .token => rfl
  | .option inner => by
      rw [form, spelling_singleton, spelling_form inner]
      rfl
  | .vector inner => by
      rw [form, spelling_lifetime_cons, spelling_form inner]
      rfl
  | .path name [] => rfl
  | .path name (arg :: args) => by
      rw [form, WrittenType.spelling, spellings_forms (arg :: args)]
      rfl
  | .box inner => by
      rw [form, spelling_lifetime_cons, spelling_form inner]
      rfl

theorem spellings_forms : ∀ ts : List TargetType, WrittenType.spellings (forms ts) = writtenList ts
  | [] => rfl
  | t :: ts => by
      rw [forms, WrittenType.spellings, spelling_form t, spellings_forms ts, writtenList]

end

end TargetType

/-! ### Reading a type back -/

/-- A box is a type of that name with the lifetime in front of its content. -/
def isBox (name : String) (args : List WrittenType) : Bool :=
  name == "Box" && args.head?.any (·.name == lifetime.name)

mutual

/-- The type that a tree of names is the translation of, boxed or not. -/
def readBack (space : String) : WrittenType → ValueType
  | .mk name args =>
    match ValueType.kindOf name, readBackList space args with
    | .unit, _ => .unit
    | .token, _ => .token
    | .option, inner :: _ => .option inner
    | .sequence, _ :: inner :: _ => .sequence inner
    | _, parts =>
      if isBox name args then parts.getLastD .unit else .named (unqualified space name) parts

/-- The types that several trees of names are the translations of. -/
def readBackList (space : String) : List WrittenType → List ValueType
  | [] => []
  | t :: rest => readBack space t :: readBackList space rest

end

section Translation

variable {space : String}

theorem readBack_option (v : TargetType) :
    readBack space (TargetType.option v).form = .option (readBack space v.form) := by
  simp [TargetType.form, readBack, readBackList, ValueType.kindOf]

theorem readBack_vector (v : TargetType) :
    readBack space (TargetType.vector v).form = .sequence (readBack space v.form) := by
  simp [TargetType.form, readBack, readBackList, ValueType.kindOf]

theorem readBack_boxedIf (boxed : Bool) (v : TargetType) :
    readBack space (TargetType.boxedIf boxed v).form = readBack space v.form := by
  cases boxed with
  | false => rfl
  | true =>
      simp [TargetType.boxedIf, TargetType.form, readBack, readBackList, ValueType.kindOf, isBox,
        WrittenType.name, lifetime]

theorem name_form_boxedIf_ne {boxed : Bool} {v : TargetType} (h : v.form.name ≠ lifetime.name) :
    (TargetType.boxedIf boxed v).form.name ≠ lifetime.name := by
  cases boxed with
  | false => exact h
  | true => exact (by decide : "Box" ≠ "'alloc")

/-- The lifetime is not written for any type. -/
theorem name_form_ne_lifetime (hspace : IsNamespace space) {t : ValueType} (ht : t.PlainlyNamed)
    {boxed : Bool} {u : TargetType} (h : targetType space boxed t = .ok u) :
    u.form.name ≠ lifetime.name := by
  cases t with
  | unit =>
      cases boxed with
      | false =>
          cases h
          decide
      | true => cases h
  | token =>
      cases h
      exact name_form_boxedIf_ne (by decide)
  | option inner =>
      obtain ⟨v, -, rfl⟩ := map_eq_ok.1 h
      exact (by decide : "Option" ≠ "'alloc")
  | sequence inner =>
      obtain ⟨v, -, rfl⟩ := map_eq_ok.1 h
      exact name_form_boxedIf_ne (by decide : "Vec" ≠ "'alloc")
  | named name args =>
      obtain ⟨vs, -, rfl⟩ := map_eq_ok.1 h
      refine name_form_boxedIf_ne fun hname => ?_
      have hquote : '\'' ∈ (typePath space name).toList := by
        rw [show typePath space name = "'alloc" from hname]
        decide
      exact (isPathChar_of_mem_typePath hspace ht.named.2.1 _ hquote).not_mem (by decide)

/-- A declared type with arguments is not taken for a box. -/
theorem isBox_forms (hspace : IsNamespace space) {name : String} {boxed : Bool}
    {args : List ValueType} {vs : List TargetType} (hargs : ∀ arg ∈ args, arg.PlainlyNamed)
    (h : targetTypes space boxed args = .ok vs) : isBox name (TargetType.forms vs) = false := by
  cases args with
  | nil =>
      cases h
      simp [isBox, TargetType.forms]
  | cons arg args =>
      obtain ⟨v, vs, hv, -, rfl⟩ := targetTypes_cons_eq_ok.1 h
      have hne := name_form_ne_lifetime hspace (hargs arg List.mem_cons_self) hv
      simp [isBox, TargetType.forms, hne]

theorem readBack_path {path : String} {vs : List TargetType} (hpath : path ∉ reservedNames)
    (hbox : isBox path (TargetType.forms vs) = false) :
    readBack space (TargetType.path path vs).form =
      .named (unqualified space path) (readBackList space (TargetType.forms vs)) := by
  rw [TargetType.form, readBack, ValueType.kindOf_eq_declared_iff.2 hpath]
  simp [hbox]

mutual

/-- Every type is read back from its translations. -/
theorem readBack_form (hspace : IsNamespace space) : ∀ {t : ValueType} {boxed : Bool}
    {u : TargetType}, t.PlainlyNamed → targetType space boxed t = .ok u →
      readBack space u.form = t
  | .unit, boxed, u, ht, h => by
      cases boxed with
      | false =>
          cases h
          rfl
      | true => cases h
  | .token, boxed, u, ht, h => by
      cases h
      rw [readBack_boxedIf]
      rfl
  | .option inner, boxed, u, ht, h => by
      obtain ⟨v, hv, rfl⟩ := map_eq_ok.1 h
      rw [readBack_option, readBack_form hspace ht.option hv]
  | .sequence inner, boxed, u, ht, h => by
      obtain ⟨v, hv, rfl⟩ := map_eq_ok.1 h
      rw [readBack_boxedIf, readBack_vector, readBack_form hspace ht.sequence hv]
  | .named name args, boxed, u, ht, h => by
      -- Neither the path nor the arguments let the type be taken for another kind.
      obtain ⟨vs, hvs, rfl⟩ := map_eq_ok.1 h
      obtain ⟨hreserved, -, hargs⟩ := ht.named
      have hbox : isBox (typePath space name) (TargetType.forms vs) = false :=
        isBox_forms hspace hargs hvs
      rw [readBack_boxedIf, readBack_path (typePath_not_mem_reservedNames hreserved) hbox,
        unqualified_typePath, readBackList_forms hspace hargs hvs]

theorem readBackList_forms (hspace : IsNamespace space) : ∀ {ts : List ValueType} {boxed : Bool}
    {us : List TargetType}, (∀ t ∈ ts, t.PlainlyNamed) → targetTypes space boxed ts = .ok us →
      readBackList space (TargetType.forms us) = ts
  | [], boxed, us, hts, h => by
      cases h
      rfl
  | t :: ts, boxed, us, hts, h => by
      obtain ⟨v, vs, hv, hvs, rfl⟩ := targetTypes_cons_eq_ok.1 h
      rw [List.forall_mem_cons] at hts
      rw [TargetType.forms, readBackList, readBack_form hspace hts.1 hv,
        readBackList_forms hspace hts.2 hvs]

end

/-! ### Names without a sign -/

/-- The names of the target that are not paths. -/
def targetNames : List String := ["()", "Token", "Option", "Vec", "Box", "'alloc"]

theorem not_isSign_of_mem_targetNames {name : String} (h : name ∈ targetNames) :
    ∀ c ∈ name.toList, ¬ WrittenType.IsSign c := by
  have hall : ∀ name ∈ targetNames, ∀ c ∈ name.toList, ¬ WrittenType.IsSign c := by
    simp [targetNames, WrittenType.IsSign]
  exact hall name h

theorem signFree_mk_of_mem_targetNames {name : String} {args : List WrittenType}
    (hname : name ∈ targetNames) (hargs : ∀ arg ∈ args, arg.SignFree) :
    (WrittenType.mk name args).SignFree :=
  WrittenType.signFree_mk_iff.2 ⟨not_isSign_of_mem_targetNames hname, hargs⟩

theorem signFree_lifetime : lifetime.SignFree := signFree_mk_of_mem_targetNames (by decide) nofun

theorem signFree_lifetime_cons {name : String} {arg : WrittenType} (hname : name ∈ targetNames)
    (harg : arg.SignFree) : (WrittenType.mk name [lifetime, arg]).SignFree :=
  signFree_mk_of_mem_targetNames hname
    (List.forall_mem_cons.2 ⟨signFree_lifetime, List.forall_mem_singleton.2 harg⟩)

theorem signFree_form_boxedIf {boxed : Bool} {v : TargetType} (h : v.form.SignFree) :
    (TargetType.boxedIf boxed v).form.SignFree := by
  cases boxed with
  | false => exact h
  | true => exact signFree_lifetime_cons (by decide) h

mutual

theorem signFree_form (hspace : IsNamespace space) : ∀ {t : ValueType} {boxed : Bool}
    {u : TargetType}, t.PlainlyNamed → targetType space boxed t = .ok u → u.form.SignFree
  | .unit, boxed, u, ht, h => by
      cases boxed with
      | false =>
          cases h
          exact signFree_mk_of_mem_targetNames (by decide) nofun
      | true => cases h
  | .token, boxed, u, ht, h => by
      cases h
      exact signFree_form_boxedIf (signFree_mk_of_mem_targetNames (by decide)
        (List.forall_mem_singleton.2 signFree_lifetime))
  | .option inner, boxed, u, ht, h => by
      obtain ⟨v, hv, rfl⟩ := map_eq_ok.1 h
      exact signFree_mk_of_mem_targetNames (by decide)
        (List.forall_mem_singleton.2 (signFree_form hspace ht.option hv))
  | .sequence inner, boxed, u, ht, h => by
      obtain ⟨v, hv, rfl⟩ := map_eq_ok.1 h
      exact signFree_form_boxedIf
        (signFree_lifetime_cons (by decide) (signFree_form hspace ht.sequence hv))
  | .named name args, boxed, u, ht, h => by
      obtain ⟨vs, hvs, rfl⟩ := map_eq_ok.1 h
      obtain ⟨-, hname, hargs⟩ := ht.named
      refine signFree_form_boxedIf (WrittenType.signFree_mk_iff.2
        ⟨fun c hc hsign => ?_, signFree_forms hspace hargs hvs⟩)
      have hpath := (isPathChar_of_mem_typePath hspace hname c hc).not_mem
      exact hpath (List.mem_append_left ['\'', '('] hsign)

theorem signFree_forms (hspace : IsNamespace space) : ∀ {ts : List ValueType} {boxed : Bool}
    {us : List TargetType}, (∀ t ∈ ts, t.PlainlyNamed) → targetTypes space boxed ts = .ok us →
      ∀ w ∈ TargetType.forms us, w.SignFree
  | [], boxed, us, hts, h => by
      cases h
      exact nofun
  | t :: ts, boxed, us, hts, h => by
      obtain ⟨v, vs, hv, hvs, rfl⟩ := targetTypes_cons_eq_ok.1 h
      rw [List.forall_mem_cons] at hts
      rw [TargetType.forms, List.forall_mem_cons]
      exact ⟨signFree_form hspace hts.1 hv, signFree_forms hspace hts.2 hvs⟩

end

end Translation

/-! ### Types that are spelled alike -/

/-- A type that was classified has no declared type with a name that means something else. -/
theorem plainlyNamed_of_ofWritten {w : WrittenType} {t : ValueType}
    (h : ValueType.ofWritten w = .ok t) (hnames : ∀ node ∈ t.nodes, node.HasPlainName) :
    t.PlainlyNamed := by
  have hwell : t.WellNamed := by
    rw [← ValueType.ofWritten_toWritten_iff, ValueType.toWritten_of_ofWritten _ _ h, h]
  exact fun node hnode => ⟨hwell node hnode, hnames node hnode⟩

/-- Whatever the namespace is, and boxed or not, two types whose declared types are named by
letters, digits and underscores are spelled alike only if they are the same type. -/
theorem spellings_keep_types_apart (space : String) (hspace : IsNamespace space) (boxed : Bool)
    (v w : WrittenType) (s t : ValueType) (hs : ValueType.ofWritten v = .ok s)
    (ht : ValueType.ofWritten w = .ok t) (hsnames : ∀ node ∈ s.nodes, node.HasPlainName)
    (htnames : ∀ node ∈ t.nodes, node.HasPlainName) (text : String)
    (hstext : spellType space boxed s = .ok text) (httext : spellType space boxed t = .ok text) :
    s = t := by
  have hs' := plainlyNamed_of_ofWritten hs hsnames
  have ht' := plainlyNamed_of_ofWritten ht htnames
  obtain ⟨u, hu, hutext⟩ := map_eq_ok.1 hstext
  obtain ⟨u', hu', hutext'⟩ := map_eq_ok.1 httext
  have hform : u.form = u'.form := by
    refine WrittenType.spelling_inj (signFree_form hspace hs' hu) (signFree_form hspace ht' hu') ?_
    rw [TargetType.spelling_form, TargetType.spelling_form, hutext, hutext']
  rw [← readBack_form hspace hs' hu, hform, readBack_form hspace ht' hu']

/-- A name that has signs is taken for a name with arguments. -/
example : spellType "" false (.named "A<B>" []) = spellType "" false (.named "A" [.named "B" []]) :=
  rfl

/-- A pair of a token and a sequence of declared types that are named like a box. -/
def pairWithBoxes : ValueType := .option (.named "Pair" [.token, .sequence (.named "Box" [.token])])

/-- Boxes beside a declared type of that name, which has no path in the first text. -/
theorem spellings_keep_types_apart_boxes :
    ValueType.ofWritten pairWithBoxes.toWritten = .ok pairWithBoxes ∧
    (∀ node ∈ pairWithBoxes.nodes, node.HasPlainName) ∧
    IsNamespace "" ∧ IsNamespace "crate::ast" ∧
    spellType "" true pairWithBoxes = .ok
      ("Option<Box<'alloc, Pair<Box<'alloc, Token<'alloc>>, " ++
        "Box<'alloc, Vec<'alloc, Box<Token<'alloc>>>>>>>") ∧
    spellType "crate::ast" true pairWithBoxes = .ok
      ("Option<Box<'alloc, crate::ast::Pair<Box<'alloc, Token<'alloc>>, " ++
        "Box<'alloc, Vec<'alloc, crate::ast::Box<Token<'alloc>>>>>>>") ∧
    ∀ w t, ValueType.ofWritten w = .ok t → (∀ node ∈ t.nodes, node.HasPlainName) →
      spellType "" true t = spellType "" true pairWithBoxes ∨
        spellType "crate::ast" true t = spellType "crate::ast" true pairWithBoxes →
      t = pairWithBoxes := by
  have hpair : ValueType.ofWritten pairWithBoxes.toWritten = .ok pairWithBoxes := by rfl
  have hnames : ∀ node ∈ pairWithBoxes.nodes, node.HasPlainName := by
    simp [pairWithBoxes, ValueType.nodes, ValueType.nodesOfList, ValueType.HasPlainName, IsNameChar,
      Char.isAlphanum, Char.isAlpha, Char.isUpper, Char.isLower]
  have hbare : IsNamespace "" := ⟨[], by simp, rfl⟩
  have hpath : IsNamespace "crate::ast" :=
    ⟨["crate".toList, "ast".toList], by simp [IsIdentifier, IsNameChar], by rfl⟩
  refine ⟨hpair, hnames, hbare, hpath, by rfl, by rfl, fun w t hw ht h => ?_⟩
  rcases h with h | h
  · exact spellings_keep_types_apart "" hbare true w _ t _ hw hpair ht hnames _ h (by rfl)
  · exact spellings_keep_types_apart "crate::ast" hpath true w _ t _ hw hpair ht hnames _ h (by rfl)

end Compiled

end ParserTables
