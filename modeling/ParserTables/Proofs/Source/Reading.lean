import Mathlib.Data.List.TakeWhile
import ParserTables.Source.Line
import ParserTables.Proofs.Text.Numeral

/-!
# Reading generated source

How the language of a target reads a table that stands in generated source. A table is a sequence
of items between brackets, with commas between them and possibly one behind the last; blanks and
comments may stand around the items. The two targets differ in their comments and their items, so
the marker of a comment and the reader of an item are parameters.

`Body` says which texts are the bodies of tables, and `Body.sequence?_append` that such a table is
read as its items. `Listed` is for the pieces that a body is put together from.
-/

namespace ParserTables.Source

open ParserTables.Text

/-- A reader takes what it reads from the front of a text, and hands on what is left. -/
abbrev Reader (α : Type) := List Char → Option (α × List Char)

/-- The brackets around a table. -/
inductive Bracket where
  | square
  | curly

def Bracket.opening : Bracket → Char
  | .square => '['
  | .curly => '\x7b'

def Bracket.closing : Bracket → Char
  | .square => ']'
  | .curly => '\x7d'

/-- A character that no item goes on with. -/
def isDelimiter (c : Char) : Bool := c == ',' || c == ':' || c == ']' || c == '\x7d'

/-- What starts a comment, which goes on to the end of its line. -/
structure Marker where
  first : Char
  rest : List Char
  visible : first.isWhitespace = false
  apart : isDelimiter first = false
  oneLine : '\n' ∉ rest

/-- A text without the blanks and comments at its front. The flag says whether it starts inside a
comment. -/
def Marker.skip (m : Marker) : Bool → List Char → List Char
  | _, [] => []
  | true, c :: cs => m.skip (c != '\n') cs
  | false, c :: cs =>
    if c.isWhitespace then m.skip false cs
    else if (m.first :: m.rest).isPrefixOf (c :: cs) then m.skip true cs
    else c :: cs

section Readers

variable {α : Type}

/-- The items up to the closing bracket. `steps` bounds how many they are. -/
def items? (m : Marker) (b : Bracket) (item : Reader α) : Nat → Reader (List α)
  | 0, _ => none
  | steps + 1, cs =>
    match m.skip false cs with
    | [] => none
    | c :: rest =>
      if c = b.closing then some ([], rest)
      else
        (item (c :: rest)).bind fun p =>
          match m.skip false p.2 with
          | [] => none
          | d :: rest =>
            if d = b.closing then some ([p.1], rest)
            else if d = ',' then (items? m b item steps rest).map fun q => (p.1 :: q.1, q.2)
            else none

/-- The items between two brackets. -/
def sequence? (m : Marker) (b : Bracket) (item : Reader α) : Reader (List α)
  | [] => none
  | c :: cs => if c = b.opening then items? m b item (cs.length + 1) cs else none

end Readers

/-- A natural number. A number other than zero does not start with a zero. -/
def natural? : Reader Nat := fun cs =>
  let digits := cs.takeWhile Char.isDigit
  if digits = [] ∨ 1 < digits.length ∧ digits.head? = some '0' then none
  else some (decimalValue digits, cs.dropWhile Char.isDigit)

/-- An integer. -/
def integer? : Reader Int
  | '-' :: cs => (natural? cs).map fun p => (-(p.1 : Int), p.2)
  | cs => (natural? cs).map fun p => ((p.1 : Int), p.2)

/-- A character of a word. -/
def isWordChar (c : Char) : Bool := c.isAlphanum || c == '_'

/-- The characters of a kind at the front of a text, if there are any. -/
def run? (p : Char → Bool) : Reader String := fun cs =>
  let run := cs.takeWhile p
  if run = [] then none else some (String.ofList run, cs.dropWhile p)

/-- A word: a name or a keyword. -/
def word? : Reader String := run? isWordChar

/-! ### Blanks and comments -/

section Skipping

variable {m : Marker}

/-- A text that leaves no trace in front of another one. -/
def Blank (m : Marker) (gap : List Char) : Prop :=
  ∀ cs, m.skip false (gap ++ cs) = m.skip false cs

theorem blank_nil : Blank m [] := fun _ => rfl

theorem Blank.append {gap gap' : List Char} (h : Blank m gap) (h' : Blank m gap') :
    Blank m (gap ++ gap') := fun cs => by rw [List.append_assoc, h, h']

theorem blank_of_isWhitespace {gap : List Char} (h : ∀ c ∈ gap, c.isWhitespace = true) :
    Blank m gap := by
  induction gap with
  | nil => exact blank_nil
  | cons c gap ih =>
      rw [List.forall_mem_cons] at h
      intro cs
      rw [List.cons_append, Marker.skip, if_pos h.1, ih h.2]

theorem skip_true_append {text : List Char} (h : '\n' ∉ text) (cs : List Char) :
    m.skip true (text ++ '\n' :: cs) = m.skip false cs := by
  induction text with
  | nil => simp [Marker.skip]
  | cons c text ih =>
      rw [List.mem_cons, not_or] at h
      rw [List.cons_append, Marker.skip, bne_iff_ne.2 (Ne.symm h.1), ih h.2]

theorem blank_comment {text : List Char} (h : '\n' ∉ text) :
    Blank m (m.first :: (m.rest ++ text ++ ['\n'])) := by
  intro cs
  have hassoc : m.first :: (m.rest ++ text ++ ['\n']) ++ cs =
      m.first :: (m.rest ++ text ++ '\n' :: cs) := by simp
  have hprefix : (m.first :: m.rest).isPrefixOf (m.first :: (m.rest ++ text ++ '\n' :: cs)) :=
    List.isPrefixOf_iff_prefix.2 ⟨text ++ '\n' :: cs, by simp⟩
  rw [hassoc, Marker.skip, if_neg (by simp [m.visible]), if_pos hprefix,
    skip_true_append (by simp [m.oneLine, h])]

theorem skip_cons {c : Char} (hspace : c.isWhitespace = false) (hmarker : c ≠ m.first)
    (cs : List Char) : m.skip false (c :: cs) = c :: cs := by
  have hprefix : ¬ (m.first :: m.rest).isPrefixOf (c :: cs) = true := by
    rw [List.isPrefixOf_iff_prefix, List.cons_prefix_cons]
    exact fun h => hmarker h.1.symm
  rw [Marker.skip, if_neg (by simp [hspace]), if_neg hprefix]

end Skipping

/-! ### Bodies of tables -/

section Bodies

variable {α β : Type} {m : Marker} {b : Bracket} {item : Reader α}

/-- The text `w` stands for `a` as an item: it can be told from blanks, comments and brackets, and
the reader stops in front of the delimiter behind it. -/
structure Item (m : Marker) (item : Reader α) (w : List Char) (a : α) : Prop where
  head : ∃ c cs, w = c :: cs ∧ c.isWhitespace = false ∧ isDelimiter c = false ∧ c ≠ m.first
  reads : ∀ d rest, isDelimiter d = true → item (w ++ d :: rest) = some (a, d :: rest)

/-- The text is the body of a table with these items, together with the closing bracket. -/
inductive Body (m : Marker) (b : Bracket) (item : Reader α) : List α → List Char → Prop
  | nil {gap} : Blank m gap → Body m b item [] (gap ++ [b.closing])
  | last {gap w a} : Blank m gap → Item m item w a →
      Body m b item [a] (gap ++ (w ++ [b.closing]))
  | comma {gap w a as cs} : Blank m gap → Item m item w a → Body m b item as cs →
      Body m b item (a :: as) (gap ++ (w ++ ',' :: cs))

theorem Body.length_lt {as : List α} {cs : List Char} (h : Body m b item as cs) :
    as.length < cs.length := by
  induction h with
  | nil => simp
  | last _ hw =>
      obtain ⟨c, cs, rfl, -⟩ := hw.head
      simp
      omega
  | comma _ _ _ ih =>
      simp
      omega

theorem skip_delimiter {d : Char} (hd : isDelimiter d = true) (cs : List Char) :
    m.skip false (d :: cs) = d :: cs := by
  have hspace : d.isWhitespace = false := by
    simp only [isDelimiter, Bool.or_eq_true, beq_iff_eq] at hd
    rcases hd with ((rfl | rfl) | rfl) | rfl <;> rfl
  exact skip_cons hspace (by rintro rfl; simp [m.apart] at hd) cs

theorem Body.items?_append {as : List α} {cs : List Char} (h : Body m b item as cs) :
    ∀ steps, as.length < steps → ∀ rest,
      items? m b item steps (cs ++ rest) = some (as, rest) := by
  have hclosing : isDelimiter b.closing = true := by cases b <;> rfl
  have hcomma : ',' ≠ b.closing := by cases b <;> decide
  induction h with
  | nil hgap =>
      intro steps hsteps rest
      obtain ⟨n, rfl⟩ := Nat.exists_eq_succ_of_ne_zero (Nat.ne_of_gt hsteps)
      rw [items?, List.append_assoc, hgap, List.singleton_append, skip_delimiter hclosing]
      simp
  | @last gap w a hgap hw =>
      intro steps hsteps rest
      obtain ⟨n, rfl⟩ := Nat.exists_eq_succ_of_ne_zero (Nat.ne_of_gt (Nat.zero_lt_of_lt hsteps))
      have hread := hw.reads b.closing rest hclosing
      obtain ⟨c, cs, rfl, hspace, hc, hmarker⟩ := hw.head
      have hne : c ≠ b.closing := by rintro rfl; simp [hclosing] at hc
      rw [items?, List.append_assoc, hgap, List.append_assoc, List.singleton_append,
        List.cons_append, skip_cons hspace hmarker]
      rw [List.cons_append] at hread
      simp [hne, hread, skip_delimiter hclosing]
  | @comma gap w a as cs hgap hw hbody ih =>
      intro steps hsteps rest
      obtain ⟨n, rfl⟩ := Nat.exists_eq_succ_of_ne_zero (Nat.ne_of_gt (Nat.zero_lt_of_lt hsteps))
      have hread := hw.reads ',' (cs ++ rest) rfl
      obtain ⟨c, cs', rfl, hspace, hc, hmarker⟩ := hw.head
      have hne : c ≠ b.closing := by rintro rfl; simp [hclosing] at hc
      rw [items?, List.append_assoc, hgap, List.append_assoc, List.cons_append, List.cons_append,
        skip_cons hspace hmarker]
      rw [List.cons_append] at hread
      simp [hne, hread, skip_delimiter (show isDelimiter ',' = true from rfl), hcomma,
        ih n (Nat.lt_of_succ_lt_succ hsteps) rest]

/-- A table is read as the items of its body. -/
theorem Body.sequence?_append {as : List α} {cs : List Char} (h : Body m b item as cs)
    (rest : List Char) :
    sequence? m b item (b.opening :: (cs ++ rest)) = some (as, rest) := by
  have hlen := h.length_lt
  rw [sequence?, if_pos rfl, h.items?_append]
  simp
  omega

/-- The text is a piece of a body that holds these items, each with its comma. -/
def Listed (m : Marker) (b : Bracket) (item : Reader α) (as : List α) (cs : List Char) : Prop :=
  ∀ bs body, Body m b item bs body → Body m b item (as ++ bs) (cs ++ body)

theorem listed_of_blank {gap : List Char} (h : Blank m gap) : Listed m b item [] gap := by
  intro bs body hbody
  rw [List.nil_append]
  cases hbody with
  | nil hgap => rw [← List.append_assoc]; exact .nil (h.append hgap)
  | last hgap hw => rw [← List.append_assoc]; exact .last (h.append hgap) hw
  | comma hgap hw hbody => rw [← List.append_assoc]; exact .comma (h.append hgap) hw hbody

theorem Item.listed {w : List Char} {a : α} (h : Item m item w a) :
    Listed m b item [a] (w ++ [',']) := by
  intro bs body hbody
  rw [List.append_assoc]
  exact .comma blank_nil h hbody

theorem Listed.append {as as' : List α} {cs cs' : List Char} (h : Listed m b item as cs)
    (h' : Listed m b item as' cs') : Listed m b item (as ++ as') (cs ++ cs') := by
  intro bs body hbody
  rw [List.append_assoc, List.append_assoc]
  exact h _ _ (h' _ _ hbody)

theorem listed_flatMap {γ : Type} {xs : List γ} {v : γ → List α} {w : γ → List Char}
    (h : ∀ x ∈ xs, Listed m b item (v x) (w x)) :
    Listed m b item (xs.flatMap v) (xs.flatMap w) := by
  induction xs with
  | nil => exact listed_of_blank blank_nil
  | cons x xs ih =>
      rw [List.forall_mem_cons] at h
      exact h.1.append (ih h.2)

theorem listed_map {γ : Type} {xs : List γ} {v : γ → α} {w : γ → List Char}
    (h : ∀ x ∈ xs, Listed m b item [v x] (w x)) :
    Listed m b item (xs.map v) (xs.flatMap w) := by
  rw [List.map_eq_flatMap]
  exact listed_flatMap h

theorem Listed.body {as : List α} {cs : List Char} (h : Listed m b item as cs) :
    Body m b item as (cs ++ [b.closing]) := by
  simpa using h [] [b.closing] (.nil blank_nil)

/-- Items with a comma and a space between them. -/
theorem body_intercalate {γ : Type} {xs : List γ} {v : γ → α} {w : γ → List Char}
    (h : ∀ x ∈ xs, Item m item (w x) (v x)) {gap : List Char} (hgap : Blank m gap) :
    Body m b item (xs.map v)
      (gap ++ (List.intercalate [',', ' '] (xs.map w) ++ [b.closing])) := by
  induction xs generalizing gap with
  | nil => exact .nil hgap
  | cons x xs ih =>
      rw [List.forall_mem_cons] at h
      cases xs with
      | nil => simpa [List.intercalate] using Body.last hgap h.1
      | cons y ys =>
          have hspace : Blank m [' '] := blank_of_isWhitespace (by simp)
          simpa [List.intercalate] using Body.comma hgap h.1 (ih h.2 hspace)

end Bodies

/-! ### Numbers and words -/

section Leaves

variable {m : Marker} {p : Char → Bool} {w rest : List Char} {d : Char}

theorem takeWhile_append_delimiter (hw : ∀ c ∈ w, p c = true) (hd : p d = false) :
    (w ++ d :: rest).takeWhile p = w := by
  rw [List.takeWhile_append_of_pos hw, List.takeWhile_cons, hd]
  simp

theorem dropWhile_append_delimiter (hw : ∀ c ∈ w, p c = true) (hd : p d = false) :
    (w ++ d :: rest).dropWhile p = d :: rest := by
  rw [List.dropWhile_append_of_pos hw, List.dropWhile_cons, hd]
  simp

theorem isDigit_eq_false_of_isDelimiter (h : isDelimiter d = true) : d.isDigit = false := by
  simp only [isDelimiter, Bool.or_eq_true, beq_iff_eq] at h
  rcases h with ((rfl | rfl) | rfl) | rfl <;> rfl

theorem isWordChar_eq_false_of_isDelimiter (h : isDelimiter d = true) :
    isWordChar d = false := by
  simp only [isDelimiter, Bool.or_eq_true, beq_iff_eq] at h
  rcases h with ((rfl | rfl) | rfl) | rfl <;> decide

theorem natural?_decimal (n : Nat) (hd : isDelimiter d = true) :
    natural? (decimal n ++ d :: rest) = some (n, d :: rest) := by
  have hdigits : ∀ c ∈ decimal n, c.isDigit = true := fun c hc => isDigit_of_mem_decimal hc
  have hend := isDigit_eq_false_of_isDelimiter hd
  have hne : decimal n ≠ [] := Nat.toDigits_ne_nil
  have hzero : ¬ (1 < (decimal n).length ∧ (decimal n).head? = some '0') := by
    rintro ⟨hlen, hhead⟩
    rcases Nat.eq_zero_or_pos n with rfl | hn
    · exact absurd hlen (by decide)
    · obtain ⟨c, cs, hc, hc0⟩ := exists_decimal_eq_cons_of_pos hn
      rw [hc, List.head?_cons, Option.some.injEq] at hhead
      exact hc0 hhead
  simp only [natural?, takeWhile_append_delimiter hdigits hend,
    dropWhile_append_delimiter hdigits hend, decimalValue_decimal]
  rw [if_neg (not_or.2 ⟨hne, hzero⟩)]

theorem run?_append {t : String} (ht : t.toList.all p = true) (hne : t ≠ "") (hd : p d = false) :
    run? p (t.toList ++ d :: rest) = some (t, d :: rest) := by
  have hall := List.all_eq_true.1 ht
  simp only [run?, takeWhile_append_delimiter hall hd, dropWhile_append_delimiter hall hd,
    String.toList_eq_nil_iff, if_neg hne, String.ofList_toList]

theorem word?_append {word : String} (hword : word.toList.all isWordChar = true) (hne : word ≠ "")
    (hd : isDelimiter d = true) : word? (word.toList ++ d :: rest) = some (word, d :: rest) :=
  run?_append hword hne (isWordChar_eq_false_of_isDelimiter hd)

theorem toList_toString_nat (n : Nat) : (toString n).toList = decimal n := by
  simp [decimal]

theorem toList_toString_int (n : Int) : (toString n).toList = signedDecimal n := by
  cases n with
  | ofNat n => exact toList_toString_nat n
  | negSucc n =>
      refine String.toList_append.trans ?_
      simp [signedDecimal, decimal, Nat.toList_repr]

theorem head_of_isDigit {c : Char} (h : c.isDigit = true) :
    c.isWhitespace = false ∧ isDelimiter c = false := by
  constructor
  · rw [← Bool.not_eq_true]
    intro hspace
    simp only [Char.isWhitespace, Bool.or_eq_true, decide_eq_true_eq] at hspace
    rcases hspace with ((rfl | rfl) | rfl) | rfl <;> exact absurd h (by decide)
  · rw [← Bool.not_eq_true]
    intro hd
    rw [isDigit_eq_false_of_isDelimiter hd] at h
    cases h

theorem item_natural (hm : m.first.isDigit = false) (n : Nat) :
    Item m natural? (toString n).toList n := by
  rw [toList_toString_nat]
  refine ⟨?_, fun d rest hd => natural?_decimal n hd⟩
  obtain ⟨c, cs, hc, hdigit⟩ := exists_decimal_eq_cons n
  exact ⟨c, cs, hc, (head_of_isDigit hdigit).1, (head_of_isDigit hdigit).2,
    by rintro rfl; simp [hm] at hdigit⟩

theorem integer?_signedDecimal (n : Int) (hd : isDelimiter d = true) :
    integer? (signedDecimal n ++ d :: rest) = some (n, d :: rest) := by
  cases n with
  | ofNat n =>
      obtain ⟨c, cs, hc, hdigit⟩ := exists_decimal_eq_cons n
      have hread : natural? (decimal n ++ d :: rest) = some (n, d :: rest) :=
        natural?_decimal n hd
      rw [signedDecimal]
      rw [hc, List.cons_append] at hread ⊢
      rw [integer?, hread]
      · rfl
      · intro rest h
        obtain ⟨rfl, -⟩ := List.cons.inj h
        exact absurd hdigit (by decide)
  | negSucc n =>
      rw [signedDecimal, List.cons_append, integer?, natural?_decimal (n + 1) hd]
      rfl

theorem item_integer (hm : m.first.isDigit = false) (hm' : m.first ≠ '-') (n : Int) :
    Item m integer? (toString n).toList n := by
  rw [toList_toString_int]
  refine ⟨?_, fun d rest hd => integer?_signedDecimal n hd⟩
  cases n with
  | ofNat n =>
      obtain ⟨c, cs, hc, hdigit⟩ := exists_decimal_eq_cons n
      exact ⟨c, cs, hc, (head_of_isDigit hdigit).1, (head_of_isDigit hdigit).2,
        by rintro rfl; simp [hm] at hdigit⟩
  | negSucc n => exact ⟨'-', decimal (n + 1), rfl, rfl, rfl, hm'.symm⟩

end Leaves

end ParserTables.Source
