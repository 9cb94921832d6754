import Mathlib
import ParserTables.Interpreted.Literal
import ParserTables.Proofs.Source.Reading

/-!
# String literals that are read back

How the interpreted target reads a string literal that stands on one line, and that the literal of
a text is read as the text. The reader knows the escapes for single characters and for code
points in two, four and eight digits. It refuses all others, a line break or a zero byte between
the quotes, and the opening of a literal with three quotes.
-/

namespace ParserTables.Interpreted

open ParserTables.Text ParserTables.Source

/-- The character with a code point that is written in exactly `width` hexadecimal digits. -/
def codePoint? (width : Nat) : Reader Char := fun cs =>
  let digits := cs.take width
  let n := hexValue digits
  if digits.length = width ∧ (∀ c ∈ digits, (hexDigit? c).isSome) ∧ n.isValidChar then
    some (Char.ofNat n, cs.drop width)
  else none

/-- The character that a backslash and one more character stand for. -/
def singleEscape? : Char → Option Char
  | '\\' => some '\\'
  | '\x27' => some '\x27'
  | '\x22' => some '\x22'
  | 'a' => some '\x07'
  | 'b' => some '\x08'
  | 't' => some '\t'
  | 'n' => some '\n'
  | 'v' => some '\x0b'
  | 'f' => some '\x0c'
  | 'r' => some '\r'
  | _ => none

/-- What stands behind a backslash. -/
def escaped? : Reader Char
  | [] => none
  | 'x' :: cs => codePoint? 2 cs
  | 'u' :: cs => codePoint? 4 cs
  | 'U' :: cs => codePoint? 8 cs
  | c :: cs => (singleEscape? c).map fun c => (c, cs)

/-- One character between the quotes. -/
def character? : Reader Char
  | [] => none
  | '\\' :: cs => escaped? cs
  | c :: cs => if c ∈ ['\n', '\r', '\x00'] then none else some (c, cs)

/-- The characters up to the closing quote. `steps` bounds how many they are. -/
def characters? (quote : Char) : Nat → Reader (List Char)
  | 0, _ => none
  | _ + 1, [] => none
  | steps + 1, c :: cs =>
    if c = quote then some ([], cs)
    else
      (character? (c :: cs)).bind fun p =>
        (characters? quote steps p.2).map fun q => (p.1 :: q.1, q.2)

/-- A literal between two quotes of one kind, whatever stands behind it. -/
def enclosed? : Reader String
  | [] => none
  | quote :: cs =>
    if quote ∈ ['\x27', '\x22'] then
      (characters? quote (cs.length + 1) cs).map fun p => (String.ofList p.1, p.2)
    else none

/-- A string literal. -/
def text? : Reader String
  | [] => none
  | quote :: cs =>
    if quote ∈ ['\x27', '\x22'] ∧ ¬ [quote, quote] <+: cs then
      (characters? quote (cs.length + 1) cs).map fun p => (String.ofList p.1, p.2)
    else none

/-! ### Single characters -/

theorem codePoint?_hex {width : Nat} {c : Char} (hw : 0 < width) (h : c.toNat < 16 ^ width)
    (rest : List Char) : codePoint? width (hex width c.toNat ++ rest) = some (c, rest) := by
  have hlen := length_hex hw h
  have hdigits : ∀ d ∈ hex width c.toNat, (hexDigit? d).isSome := by
    intro d hd
    obtain ⟨n, hn⟩ := exists_hexDigit?_of_mem_hex hd
    simp [hn]
  have hvalid : c.toNat.isValidChar := c.valid
  simp only [codePoint?, List.take_left' hlen, List.drop_left' hlen, hexValue_hex,
    Char.ofNat_toNat]
  rw [if_pos ⟨hlen, hdigits, hvalid⟩]

theorem escaped?_codePointEscape (c : Char) (rest : List Char) :
    ∃ cs, codePointEscape c ++ rest = '\\' :: cs ∧ escaped? cs = some (c, rest) := by
  simp only [codePointEscape]
  split_ifs with h₂ h₄
  · exact ⟨_, rfl, codePoint?_hex (by decide) h₂ rest⟩
  · exact ⟨_, rfl, codePoint?_hex (by decide) h₄ rest⟩
  · have h₈ : c.toNat < 16 ^ 8 := by
      have hvalid : c.toNat.isValidChar := c.valid
      simp only [Nat.isValidChar] at hvalid
      omega
    exact ⟨_, rfl, codePoint?_hex (by decide) h₈ rest⟩

theorem character?_of_ne {c : Char} (h : c ≠ '\\') (cs : List Char) :
    character? (c :: cs) = if c ∈ ['\n', '\r', '\x00'] then none else some (c, cs) := by
  rw [character?]
  exact h

/-- What is written for a character does not start with the quote, and is read as it. -/
theorem character?_literalChar {quote : Char} (hquote : quote = '\x27' ∨ quote = '\x22')
    (c : Char) (rest : List Char) :
    ∃ d cs, literalChar quote c ++ rest = d :: cs ∧ d ≠ quote ∧
      character? (d :: cs) = some (c, rest) := by
  have hback : '\\' ≠ quote := by rcases hquote with rfl | rfl <;> decide
  unfold literalChar
  split_ifs with h₁ h₂ h₃ h₄ h₅ h₆
  · exact ⟨_, _, rfl, hback, by rw [h₁]; rfl⟩
  · exact ⟨_, _, rfl, hback, by rw [h₂]; rfl⟩
  · exact ⟨_, _, rfl, hback, by rw [h₃]; rfl⟩
  · exact ⟨_, _, rfl, hback, by rw [h₄]; rfl⟩
  · refine ⟨_, _, rfl, hback, ?_⟩
    rcases hquote with rfl | rfl <;> subst h₅ <;> rfl
  · refine ⟨_, _, rfl, h₅, ?_⟩
    have hzero : c ≠ '\x00' := by rintro rfl; exact absurd h₆ (by decide)
    exact (character?_of_ne h₁ rest).trans (if_neg (by simp [h₂, h₃, hzero]))
  · obtain ⟨cs, hcs, hread⟩ := escaped?_codePointEscape c rest
    exact ⟨_, cs, hcs, hback, hread⟩

/-! ### Whole literals -/

theorem characters?_flatMap {quote : Char} (hquote : quote = '\x27' ∨ quote = '\x22')
    (s rest : List Char) {steps : Nat} (h : s.length < steps) :
    characters? quote steps (s.flatMap (literalChar quote) ++ quote :: rest) =
      some (s, rest) := by
  induction s generalizing steps with
  | nil =>
      obtain ⟨n, rfl⟩ := Nat.exists_eq_succ_of_ne_zero (Nat.ne_of_gt h)
      simp [characters?]
  | cons c s ih =>
      obtain ⟨n, rfl⟩ := Nat.exists_eq_succ_of_ne_zero (Nat.ne_of_gt (Nat.zero_lt_of_lt h))
      obtain ⟨d, cs, hcs, hne, hread⟩ :=
        character?_literalChar hquote c (s.flatMap (literalChar quote) ++ quote :: rest)
      rw [List.flatMap_cons, List.append_assoc, hcs, characters?, if_neg hne, hread]
      simp [ih (Nat.lt_of_succ_lt_succ h)]

theorem length_le_length_flatMap_literalChar {quote : Char}
    (hquote : quote = '\x27' ∨ quote = '\x22') (s : List Char) :
    s.length ≤ (s.flatMap (literalChar quote)).length := by
  induction s with
  | nil => exact Nat.zero_le _
  | cons c s ih =>
      obtain ⟨d, cs, hcs, -⟩ := character?_literalChar hquote c []
      have hpos : 0 < (literalChar quote c).length := by
        rw [← List.append_nil (literalChar quote c), hcs]
        exact Nat.succ_pos _
      rw [List.flatMap_cons, List.length_append, List.length_cons]
      omega

theorem quoteOf_eq (s : List Char) : quoteOf s = '\x27' ∨ quoteOf s = '\x22' := by
  unfold quoteOf
  split
  · exact .inr rfl
  · exact .inl rfl

/-- A literal that something else than a quote follows does not open with three quotes. -/
theorem not_prefix_flatMap {quote d : Char} (hquote : quote = '\x27' ∨ quote = '\x22')
    (hd : d ≠ quote) (s rest : List Char) :
    ¬ [quote, quote] <+: s.flatMap (literalChar quote) ++ quote :: d :: rest := by
  cases s with
  | nil => simpa using Ne.symm hd
  | cons c s =>
      obtain ⟨e, cs, hcs, hne, -⟩ :=
        character?_literalChar hquote c (s.flatMap (literalChar quote) ++ quote :: d :: rest)
      rw [List.flatMap_cons, List.append_assoc, hcs, List.cons_prefix_cons]
      exact fun h => hne h.1.symm

theorem toList_literal_append (s : String) (rest : List Char) :
    (literal s).toList ++ rest = quoteOf s.toList ::
      (s.toList.flatMap (literalChar (quoteOf s.toList)) ++ quoteOf s.toList :: rest) := by
  simp [literal, literalChars]

/-- The literal of a text is read as the text, and what stands behind it is left. -/
theorem enclosed?_literal (s : String) (rest : List Char) :
    enclosed? ((literal s).toList ++ rest) = some (s, rest) := by
  have hquote := quoteOf_eq s.toList
  have hlen := length_le_length_flatMap_literalChar hquote s.toList
  have hsteps : s.toList.length < (s.toList.flatMap (literalChar (quoteOf s.toList)) ++
      quoteOf s.toList :: rest).length + 1 := by
    rw [List.length_append]
    omega
  rw [toList_literal_append, enclosed?, if_pos (by simpa using hquote),
    characters?_flatMap hquote _ _ hsteps]
  simp

theorem text?_of_not_prefix {quote : Char} {cs : List Char} (h : ¬ [quote, quote] <+: cs) :
    text? (quote :: cs) = enclosed? (quote :: cs) := by
  simp only [text?, enclosed?, h, not_false_eq_true, and_true]

/-- A literal that is followed by a delimiter is read as the text. -/
theorem text?_literal {d : Char} (s : String) (hd : isDelimiter d = true) (rest : List Char) :
    text? ((literal s).toList ++ d :: rest) = some (s, d :: rest) := by
  have hquote := quoteOf_eq s.toList
  have hne : d ≠ quoteOf s.toList := by
    rintro rfl
    rcases hquote with h | h <;> rw [h] at hd <;> exact absurd hd (by decide)
  rw [toList_literal_append, text?_of_not_prefix (not_prefix_flatMap hquote hne _ _),
    ← toList_literal_append, enclosed?_literal]

end ParserTables.Interpreted
