import ParserTables.Proofs.Json.Literal

/-!
# The tokens of what is written

The compact text of a value is cut into the tokens of the value. This needs its numbers to be
integers of the right size: `Tree.Fits`. No token holds another integer, so every value that is
made from tokens has this property.
-/

namespace ParserTables.Json

open ParserTables.Text (signedDecimal)

/-! ### Values and their tokens -/

namespace Tree

mutual

/-- The numbers of the value are integers that a token can hold. -/
def Fits : Tree → Prop
  | .null | .boolean _ | .text _ => True
  | .number (.integer n) => Literal.Fits n
  | .number (.floating _) => False
  | .array items => ItemsFit items
  | .object members => MembersFit members

/-- The items fit. -/
def ItemsFit : List Tree → Prop
  | [] => True
  | t :: items => t.Fits ∧ ItemsFit items

/-- The values of the members fit. -/
def MembersFit : List (String × Tree) → Prop
  | [] => True
  | (_, t) :: members => t.Fits ∧ MembersFit members

end

mutual

/-- The tokens of a value, in front of `rest`. -/
def tokensBefore (rest : List Token) : Tree → List Token
  | .null => .null :: rest
  | .boolean b => .boolean b :: rest
  | .number n => .number (.ok n) :: rest
  | .text s => .text (.ok s) :: rest
  | .array [] => .openBracket :: .closeBracket :: rest
  | .array (t :: items) =>
    .openBracket :: tokensBefore (itemTokens (.closeBracket :: rest) items) t
  | .object [] => .openBrace :: .closeBrace :: rest
  | .object ((k, t) :: members) =>
    .openBrace :: .text (.ok k) :: .colon ::
      tokensBefore (memberTokens (.closeBrace :: rest) members) t

/-- The tokens of the further items of an array, in front of `rest`. -/
def itemTokens (rest : List Token) : List Tree → List Token
  | [] => rest
  | t :: items => .comma :: tokensBefore (itemTokens rest items) t

/-- The tokens of the further members of an object, in front of `rest`. -/
def memberTokens (rest : List Token) : List (String × Tree) → List Token
  | [] => rest
  | (k, t) :: members =>
    .comma :: .text (.ok k) :: .colon :: tokensBefore (memberTokens rest members) t

end

/-- The tokens after the opening bracket of an array, in front of `rest`. -/
def arrayTokens (rest : List Token) : List Tree → List Token
  | [] => .closeBracket :: rest
  | t :: items => t.tokensBefore (itemTokens (.closeBracket :: rest) items)

/-- The tokens after the opening brace of an object, in front of `rest`. -/
def objectTokens (rest : List Token) : List (String × Tree) → List Token
  | [] => .closeBrace :: rest
  | (k, t) :: members =>
    .text (.ok k) :: .colon :: t.tokensBefore (memberTokens (.closeBrace :: rest) members)

theorem tokensBefore_array (rest : List Token) (items : List Tree) :
    (array items).tokensBefore rest = .openBracket :: arrayTokens rest items := by
  cases items <;> rfl

theorem tokensBefore_object (rest : List Token) (members : List (String × Tree)) :
    (object members).tokensBefore rest = .openBrace :: objectTokens rest members := by
  cases members <;> rfl

end Tree

/-! ### Cutting -/

/-- The text is cut into these tokens, with any bound that allows for its characters. -/
def Lexes (cs : List Char) (ts : List Token) : Prop :=
  ∀ length steps, cs.length ≤ length → cs.length ≤ steps → tokensWithin length steps cs = ts

theorem Lexes.tokens {cs : List Char} {ts : List Token} (h : Lexes cs ts) : tokens cs = ts :=
  h cs.length cs.length (Nat.le_refl _) (Nat.le_refl _)

theorem lexes_nil : Lexes [] [] := by
  intro length steps _ _
  cases steps <;> rfl

/-- One token in front of a text. -/
theorem Lexes.token {c : Char} {cs rest : List Char} {t : Token} {ts : List Token}
    (hspace : isSpace c = false) (hlength : rest.length ≤ cs.length)
    (htoken : ∀ length, cs.length < length → tokenAt length c cs = (t, some rest))
    (h : Lexes rest ts) : Lexes (c :: cs) (t :: ts) := by
  intro length steps hl hs
  cases steps with
  | zero => exact absurd hs (by simp)
  | succ steps =>
      rw [List.length_cons] at hl hs
      rw [tokensWithin, hspace, if_neg Bool.false_ne_true, htoken length hl]
      dsimp only
      rw [h length steps (by omega) (by omega)]

section Marks

variable {cs : List Char} {ts : List Token}

theorem Lexes.openBrace (h : Lexes cs ts) : Lexes ('\x7b' :: cs) (.openBrace :: ts) :=
  h.token (by decide) (Nat.le_refl _) fun _ _ => rfl

theorem Lexes.closeBrace (h : Lexes cs ts) : Lexes ('\x7d' :: cs) (.closeBrace :: ts) :=
  h.token (by decide) (Nat.le_refl _) fun _ _ => rfl

theorem Lexes.openBracket (h : Lexes cs ts) : Lexes ('[' :: cs) (.openBracket :: ts) :=
  h.token (by decide) (Nat.le_refl _) fun _ _ => rfl

theorem Lexes.closeBracket (h : Lexes cs ts) : Lexes (']' :: cs) (.closeBracket :: ts) :=
  h.token (by decide) (Nat.le_refl _) fun _ _ => rfl

theorem Lexes.colon (h : Lexes cs ts) : Lexes (':' :: cs) (.colon :: ts) :=
  h.token (by decide) (Nat.le_refl _) fun _ _ => rfl

theorem Lexes.comma (h : Lexes cs ts) : Lexes (',' :: cs) (.comma :: ts) :=
  h.token (by decide) (Nat.le_refl _) fun _ _ => rfl

theorem Lexes.null (h : Lexes cs ts) : Lexes (Tree.writeBefore cs .null) (.null :: ts) :=
  h.token (by decide) (Nat.le_add_right cs.length 3) fun _ _ => rfl

theorem Lexes.boolean (b : Bool) (h : Lexes cs ts) :
    Lexes (Tree.writeBefore cs (.boolean b)) (.boolean b :: ts) := by
  cases b with
  | false => exact h.token (by decide) (Nat.le_add_right cs.length 4) fun _ _ => rfl
  | true => exact h.token (by decide) (Nat.le_add_right cs.length 3) fun _ _ => rfl

/-- A string in front of a text. -/
theorem Lexes.text (s : String) (h : Lexes cs ts) :
    Lexes (Tree.writtenText s ++ cs) (.text (.ok s) :: ts) := by
  have hs := StringLiteral.length_le_length_flatMap s.toList
  have heq : Tree.writtenText s ++ cs =
      '\x22' :: (s.toList.flatMap Tree.writtenChar ++ '\x22' :: cs) := by
    simp [Tree.writtenText]
  rw [heq]
  -- A character may be written as an escape, and each of them is read in one step.
  have hlong : s.toList.length + cs.length <
      (s.toList.flatMap Tree.writtenChar ++ '\x22' :: cs).length := by
    rw [List.length_append, List.length_cons]
    omega
  refine h.token (by decide) (by omega) fun length hlength => ?_
  have hread : StringLiteral.read length (s.toList.flatMap Tree.writtenChar ++ '\x22' :: cs) =
      .ok (s.toList, cs) := StringLiteral.read_flatMap s.toList cs (by omega)
  have htext : tokenAt length '\x22' (s.toList.flatMap Tree.writtenChar ++ '\x22' :: cs) =
      textToken length (s.toList.flatMap Tree.writtenChar ++ '\x22' :: cs) := rfl
  rw [htext, textToken, hread]
  simp only [String.ofList_toList]

theorem exists_signedDecimal_eq_cons (n : Int) :
    ∃ c ds, signedDecimal n = c :: ds ∧ (c = '-' ∨ c.isDigit = true) := by
  cases n with
  | ofNat n =>
      obtain ⟨c, ds, hc, hdigit⟩ := Text.exists_decimal_eq_cons n
      exact ⟨c, ds, hc, .inr hdigit⟩
  | negSucc n => exact ⟨'-', _, rfl, .inl rfl⟩

theorem ne_of_startsNumber {c d : Char} (hc : c = '-' ∨ c.isDigit = true) (hd : d ≠ '-')
    (hdigit : d.isDigit = false) : c ≠ d := by
  rintro rfl
  rcases hc with rfl | hc
  · exact hd rfl
  · exact Bool.false_ne_true (hdigit.symm.trans hc)

theorem tokenAt_of_startsNumber {c : Char} (hc : c = '-' ∨ c.isDigit = true) (length : Nat)
    (cs : List Char) : tokenAt length c cs = numberToken (c :: cs) := by
  have hne (d : Char) (hd : d ≠ '-') (hdigit : d.isDigit = false) : c ≠ d :=
    ne_of_startsNumber hc hd hdigit
  rw [tokenAt, if_neg (hne _ (by decide) (by decide)), if_neg (hne _ (by decide) (by decide)),
    if_neg (hne _ (by decide) (by decide)), if_neg (hne _ (by decide) (by decide)),
    if_neg (hne _ (by decide) (by decide)), if_neg (hne _ (by decide) (by decide)),
    if_neg (hne _ (by decide) (by decide)), if_neg (hne _ (by decide) (by decide)),
    if_neg (hne _ (by decide) (by decide)), if_neg (hne _ (by decide) (by decide)), if_pos hc]

theorem isSpace_of_startsNumber {c : Char} (hc : c = '-' ∨ c.isDigit = true) :
    isSpace c = false := by
  have hne (d : Char) (hd : d ≠ '-') (hdigit : d.isDigit = false) : (c == d) = false :=
    beq_false_of_ne (ne_of_startsNumber hc hd hdigit)
  rw [isSpace, hne ' ' (by decide) (by decide), hne '\n' (by decide) (by decide),
    hne '\t' (by decide) (by decide), hne '\r' (by decide) (by decide)]
  rfl

/-- An integer in front of a text that does not go on with a number. -/
theorem Lexes.integer {n : Int} (hn : Literal.Fits n) (hcs : Literal.EndsBefore cs)
    (h : Lexes cs ts) : Lexes (signedDecimal n ++ cs) (.number (.ok (.integer n)) :: ts) := by
  obtain ⟨c, ds, hc, hstart⟩ := exists_signedDecimal_eq_cons n
  have hscan := Literal.scan_signedDecimal hcs n
  rw [hc, List.cons_append] at hscan ⊢
  refine h.token (isSpace_of_startsNumber hstart) ?_ fun length _ => ?_
  · rw [List.length_append]
    exact Nat.le_add_left _ _
  · rw [tokenAt_of_startsNumber hstart, numberToken, hscan]
    dsimp only
    rw [Literal.value_signedDecimal hn]

end Marks

/-! ### The text of a value -/

theorem endsBefore_nil : Literal.EndsBefore [] := by
  rintro c cs ⟨⟩

theorem endsBefore_cons {c : Char} (h : c = ',' ∨ c = ']' ∨ c = '\x7d') (cs : List Char) :
    Literal.EndsBefore (c :: cs) := by
  rintro d ds ⟨⟩
  rcases h with rfl | rfl | rfl <;> decide

theorem endsBefore_writeItems {cs : List Char} (h : Literal.EndsBefore cs) (items : List Tree) :
    Literal.EndsBefore (Tree.writeItems cs items) := by
  cases items with
  | nil => exact h
  | cons t items => exact endsBefore_cons (.inl rfl) _

theorem endsBefore_writeMembers {cs : List Char} (h : Literal.EndsBefore cs)
    (members : List (String × Tree)) : Literal.EndsBefore (Tree.writeMembers cs members) := by
  cases members with
  | nil => exact h
  | cons m members => exact endsBefore_cons (.inl rfl) _

/-- A key and its colon in front of a text. -/
theorem Lexes.key {cs : List Char} {ts : List Token} (k : String) (h : Lexes cs ts) :
    Lexes (Tree.writtenText k ++ ':' :: cs) (.text (.ok k) :: .colon :: ts) :=
  h.colon.text k

mutual

/-- The text of a value, in front of a text that does not go on with a number, is cut into the
tokens of the value. -/
theorem Lexes.writeBefore {cs : List Char} {ts : List Token} (h : Lexes cs ts)
    (hcs : Literal.EndsBefore cs) :
    (t : Tree) → t.Fits → Lexes (Tree.writeBefore cs t) (t.tokensBefore ts)
  | .null, _ => h.null
  | .boolean b, _ => h.boolean b
  | .number (.integer _), hn => h.integer hn hcs
  | .number (.floating _), hn => hn.elim
  | .text s, _ => h.text s
  | .array [], _ => h.closeBracket.openBracket
  | .array (t :: items), hfit => by
      have hrest : Literal.EndsBefore (']' :: cs) := endsBefore_cons (.inr (.inl rfl)) cs
      have hitems := h.closeBracket.writeItems hrest items hfit.2
      exact (hitems.writeBefore (endsBefore_writeItems hrest items) t hfit.1).openBracket
  | .object [], _ => h.closeBrace.openBrace
  | .object ((k, t) :: members), hfit => by
      have hrest : Literal.EndsBefore ('\x7d' :: cs) := endsBefore_cons (.inr (.inr rfl)) cs
      have hmembers := h.closeBrace.writeMembers hrest members hfit.2
      have hvalue := hmembers.writeBefore (endsBefore_writeMembers hrest members) t hfit.1
      exact (hvalue.key k).openBrace

/-- The same for further items of an array. -/
theorem Lexes.writeItems {cs : List Char} {ts : List Token} (h : Lexes cs ts)
    (hcs : Literal.EndsBefore cs) :
    (items : List Tree) → Tree.ItemsFit items →
      Lexes (Tree.writeItems cs items) (Tree.itemTokens ts items)
  | [], _ => h
  | t :: items, hfit => by
      have hitems := h.writeItems hcs items hfit.2
      exact (hitems.writeBefore (endsBefore_writeItems hcs items) t hfit.1).comma

/-- The same for further members of an object. -/
theorem Lexes.writeMembers {cs : List Char} {ts : List Token} (h : Lexes cs ts)
    (hcs : Literal.EndsBefore cs) :
    (members : List (String × Tree)) → Tree.MembersFit members →
      Lexes (Tree.writeMembers cs members) (Tree.memberTokens ts members)
  | [], _ => h
  | (k, t) :: members, hfit => by
      have hmembers := h.writeMembers hcs members hfit.2
      have hvalue := hmembers.writeBefore (endsBefore_writeMembers hcs members) t hfit.1
      exact (hvalue.key k).comma

end

/-- The text of a value is cut into its tokens. -/
theorem tokens_write {t : Tree} (h : t.Fits) : tokens t.write.toList = t.tokensBefore [] := by
  rw [Tree.write, String.toList_ofList]
  exact (lexes_nil.writeBefore endsBefore_nil t h).tokens

/-! ### The integers of tokens -/

/-- The integer of the token, if it has one, fits. -/
def Token.Fits : Token → Prop
  | .number (.ok (.integer n)) => Literal.Fits n
  | _ => True

theorem fits_wordToken (t : Token) (ht : t.Fits) (letters cs : List Char) :
    (wordToken t letters cs).1.Fits := by
  unfold wordToken
  split
  · exact ht
  · exact trivial

theorem fits_numberToken (cs : List Char) : (numberToken cs).1.Fits := by
  unfold numberToken
  split
  · next literal rest _ =>
    cases hvalue : literal.value with
    | error p => exact trivial
    | ok n =>
        cases n with
        | integer n => exact Literal.fits_of_value hvalue
        | floating x => exact trivial
  · exact trivial

theorem fits_textToken (steps : Nat) (cs : List Char) : (textToken steps cs).1.Fits := by
  unfold textToken
  split
  · exact trivial
  · split
    · exact trivial
    · exact trivial

theorem fits_ite {p : Prop} [Decidable p] {a b : Token × Option (List Char)}
    (ha : a.1.Fits) (hb : b.1.Fits) : (if p then a else b).1.Fits := by
  split
  · exact ha
  · exact hb

theorem fits_tokenAt (steps : Nat) (c : Char) (cs : List Char) : (tokenAt steps c cs).1.Fits := by
  have hnumber : (if c = '-' ∨ c.isDigit then numberToken (c :: cs)
      else (Token.junk, none)).1.Fits := fits_ite (fits_numberToken (c :: cs)) trivial
  rw [tokenAt]
  refine fits_ite trivial <| fits_ite trivial <| fits_ite trivial <| fits_ite trivial <|
    fits_ite trivial <| fits_ite trivial <| fits_ite (fits_textToken steps cs) ?_
  exact fits_ite (fits_wordToken .null trivial _ cs) <|
    fits_ite (fits_wordToken (.boolean true) trivial _ cs) <|
    fits_ite (fits_wordToken (.boolean false) trivial _ cs) hnumber

theorem fits_of_mem_tokensWithin {length steps : Nat} {cs : List Char} {t : Token}
    (h : t ∈ tokensWithin length steps cs) : t.Fits := by
  induction steps generalizing cs with
  | zero => cases h
  | succ steps ih =>
      cases cs with
      | nil => cases h
      | cons c cs =>
          have hfirst := fits_tokenAt length c cs
          rw [tokensWithin] at h
          split at h
          · exact ih h
          · split at h
            · next token rest heq =>
              rcases List.mem_cons.1 h with rfl | h
              · rwa [heq] at hfirst
              · exact ih h
            · next token heq =>
              rw [List.mem_singleton.1 h]
              rwa [heq] at hfirst

theorem fits_of_mem_tokens {cs : List Char} {t : Token} (h : t ∈ tokens cs) : t.Fits :=
  fits_of_mem_tokensWithin h

end ParserTables.Json
