import Mathlib.Data.List.TakeWhile
import ParserTables.Json.Lexer
import ParserTables.Json.Tree
import ParserTables.Proofs.Text.Numeral

/-!
# Literals that are read back

What is written for a string or for an integer of the right size is read back as it was. The
literal stands in front of a rest: a string ends at its own quote, and a number needs a rest that
does not go on with it.
-/

namespace ParserTables.Json

open ParserTables.Text (decimal decimalValue decimalValue_decimal digitValue
  exists_decimal_eq_cons exists_decimal_eq_cons_of_pos hex hexDigit? hexDigit?_digitChar
  isDigit_of_mem_decimal signedBound signedDecimal wordBound)

/-! ### Strings -/

namespace StringLiteral

theorem hex_four : ∀ n < 32,
    hex 4 n = ['0', '0', Nat.digitChar (n / 16), Nat.digitChar (n % 16)] := by decide

theorem hexQuad_hex {n : Nat} (h : n < 32) (cs : List Char) :
    hexQuad (hex 4 n ++ cs) = .ok (n, cs) := by
  have hbytes : ¬ leadingBytes ('0' :: '0' :: Nat.digitChar (n / 16) ::
      Nat.digitChar (n % 16) :: cs) < 4 := by
    have hhigh := Char.utf8Size_pos (Nat.digitChar (n / 16))
    have hlow := Char.utf8Size_pos (Nat.digitChar (n % 16))
    have hzero : Char.utf8Size '0' = 1 := rfl
    simp only [leadingBytes, List.take_succ_cons, List.take_zero, List.foldl_cons,
      List.foldl_nil, hzero]
    omega
  rw [hex_four n h, List.cons_append, List.cons_append, List.cons_append, List.cons_append,
    List.nil_append, hexQuad, if_neg hbytes]
  simp only [hexDigit?_digitChar 0 (by decide), hexDigit?_digitChar (n / 16) (by omega),
    hexDigit?_digitChar (n % 16) (by omega), show '0' = Nat.digitChar 0 from rfl]
  congr 2
  omega

theorem escape_u (n : Nat) (h : n < 32) (cs : List Char) :
    escape ('u' :: (hex 4 n ++ cs)) = .ok (Char.ofNat n, cs) := by
  have hlow : isLowSurrogate n = false := by simp [isLowSurrogate]; omega
  have hhigh : isHighSurrogate n = false := by simp [isHighSurrogate]; omega
  simp [escape, unicodeEscape, hexQuad_hex h, hlow, hhigh]

/-- What is written for a character is read in one step. -/
theorem read_writtenChar (c : Char) (steps : Nat) (cs : List Char) :
    read (steps + 1) (Tree.writtenChar c ++ cs) =
      (read steps cs).map fun p => (c :: p.1, p.2) := by
  unfold Tree.writtenChar
  split_ifs with h₁ h₂ h₃ h₄ h₅ h₆ h₇ h₈
  · subst h₁; rfl
  · subst h₂; rfl
  · subst h₃; rfl
  · subst h₄; rfl
  · subst h₅; rfl
  · subst h₆; rfl
  · subst h₇; rfl
  · rw [List.append_assoc, List.cons_append, List.cons_append, List.nil_append, read,
      escape_u c.toNat h₈, Char.ofNat_toNat]
    rfl
  · rw [List.cons_append, List.nil_append, read, if_neg h₁, if_neg h₂, if_neg h₈]

theorem read_flatMap (s : List Char) (rest : List Char) {steps : Nat} (h : s.length < steps) :
    read steps (s.flatMap Tree.writtenChar ++ '\x22' :: rest) = .ok (s, rest) := by
  induction s generalizing steps with
  | nil =>
      obtain ⟨n, rfl⟩ := Nat.exists_eq_succ_of_ne_zero (Nat.ne_of_gt h)
      rfl
  | cons c s ih =>
      obtain ⟨n, rfl⟩ := Nat.exists_eq_succ_of_ne_zero (Nat.ne_of_gt (Nat.zero_lt_of_lt h))
      rw [List.flatMap_cons, List.append_assoc, read_writtenChar,
        ih (Nat.lt_of_succ_lt_succ h)]
      rfl

theorem length_writtenChar_pos (c : Char) : 0 < (Tree.writtenChar c).length := by
  unfold Tree.writtenChar
  split_ifs <;> simp

theorem length_le_length_flatMap (s : List Char) :
    s.length ≤ (s.flatMap Tree.writtenChar).length := by
  induction s with
  | nil => exact Nat.le_refl 0
  | cons c s ih =>
      rw [List.flatMap_cons, List.length_append, List.length_cons]
      have hc := length_writtenChar_pos c
      omega

end StringLiteral

/-! ### Integers -/

namespace Literal

/-- What follows does not go on with a number. -/
def EndsBefore (rest : List Char) : Prop :=
  ∀ c cs, rest = c :: cs → c.isDigit = false ∧ c ≠ '.' ∧ c ≠ 'e' ∧ c ≠ 'E'

section Scanning

variable {rest : List Char} (hrest : EndsBefore rest)

include hrest

theorem takeWhile_isDigit_of_endsBefore : rest.takeWhile Char.isDigit = [] := by
  cases rest with
  | nil => rfl
  | cons c cs => rw [List.takeWhile_cons, (hrest c cs rfl).1]; rfl

theorem dropWhile_isDigit_of_endsBefore : rest.dropWhile Char.isDigit = rest := by
  cases rest with
  | nil => rfl
  | cons c cs => rw [List.dropWhile_cons, (hrest c cs rfl).1]; rfl

theorem scanDigits_decimal (n : Nat) :
    scanDigits (decimal n ++ rest) = .ok (decimal n, rest) := by
  have htake : (decimal n ++ rest).takeWhile Char.isDigit = decimal n := by
    rw [List.takeWhile_append_of_pos fun c hc => isDigit_of_mem_decimal hc,
      takeWhile_isDigit_of_endsBefore hrest, List.append_nil]
  have hdrop : (decimal n ++ rest).dropWhile Char.isDigit = rest := by
    rw [List.dropWhile_append_of_pos fun c hc => isDigit_of_mem_decimal hc,
      dropWhile_isDigit_of_endsBefore hrest]
  have hne : (decimal n).isEmpty = false := List.isEmpty_eq_false_iff.2 Nat.toDigits_ne_nil
  rw [scanDigits, htake, hdrop, hne]
  rfl

theorem scanWhole_decimal (n : Nat) :
    scanWhole (decimal n ++ rest) = .ok (decimal n, rest) := by
  -- A single zero may be followed by anything but a digit; any other zero in front is refused.
  rcases Nat.eq_zero_or_pos n with rfl | hn
  · have hzero : decimal 0 = ['0'] := rfl
    cases rest with
    | nil => rfl
    | cons c cs =>
        rw [hzero, List.cons_append, List.nil_append, scanWhole, (hrest c cs rfl).1]
        rfl
  · obtain ⟨c, cs, hc, hne⟩ := exists_decimal_eq_cons_of_pos hn
    have hdigits := scanDigits_decimal hrest n
    rw [hc, List.cons_append] at hdigits ⊢
    rw [scanWhole]
    · exact hdigits
    · rintro d ds h
      exact hne (List.cons.inj h).1

theorem scanUnsigned_decimal (negative : Bool) (n : Nat) :
    scanUnsigned negative (decimal n ++ rest) = .ok (⟨negative, decimal n, none, none⟩, rest) := by
  have hfraction : scanFraction rest = .ok (none, rest) := by
    rw [scanFraction]
    rintro ds rfl
    exact (hrest '.' ds rfl).2.1 rfl
  have hexponent : scanExponent rest = .ok (none, rest) := by
    cases rest with
    | nil => rfl
    | cons c cs =>
        obtain ⟨-, -, he, hE⟩ := hrest c cs rfl
        rw [scanExponent, if_neg (not_or.2 ⟨he, hE⟩)]
  rw [scanUnsigned, scanWhole_decimal hrest]
  simp only [bind, Except.bind, hfraction, hexponent, pure, Except.pure]

/-- What is written for an integer is scanned as its sign and its digits. -/
theorem scan_signedDecimal (n : Int) :
    scan (signedDecimal n ++ rest) =
      .ok (⟨decide (n < 0), decimal n.natAbs, none, none⟩, rest) := by
  cases n with
  | ofNat n =>
      have hns : scan (decimal n ++ rest) = scanUnsigned false (decimal n ++ rest) := by
        rw [scan]
        rintro ds h
        obtain ⟨c, cs, hc, hdigit⟩ := exists_decimal_eq_cons n
        rw [hc, List.cons_append] at h
        rw [(List.cons.inj h).1] at hdigit
        exact absurd hdigit (by decide)
      rw [signedDecimal, hns, scanUnsigned_decimal hrest]
      rfl
  | negSucc n =>
      rw [signedDecimal, List.cons_append, scan, scanUnsigned_decimal hrest,
        decide_eq_true (Int.negSucc_lt_zero n), Int.natAbs_negSucc]

end Scanning

/-- The integers that a number token can hold. -/
def Fits (n : Int) : Prop := -(signedBound : Int) ≤ n ∧ n < (wordBound : Int)

theorem value_signedDecimal {n : Int} (h : Fits n) :
    value ⟨decide (n < 0), decimal n.natAbs, none, none⟩ = .ok (.integer n) := by
  obtain ⟨hlow, hhigh⟩ := h
  cases n with
  | ofNat n =>
      have hn : n < wordBound := Int.ofNat_lt.1 hhigh
      have hsign : decide (Int.ofNat n < 0) = false :=
        decide_eq_false (Int.not_lt.2 (Int.natCast_nonneg n))
      have habs : (Int.ofNat n).natAbs = n := rfl
      simp only [value, hsign, habs, decimalValue_decimal, Bool.false_eq_true, if_false,
        if_pos hn]
  | negSucc n =>
      have hn : 0 < n + 1 ∧ n + 1 ≤ signedBound := by
        rw [Int.negSucc_eq] at hlow
        exact ⟨Nat.succ_pos n, by omega⟩
      simp only [value, decide_eq_true (Int.negSucc_lt_zero n), Int.natAbs_negSucc,
        decimalValue_decimal, if_true, Nat.succ_eq_add_one, if_pos hn]
      rfl

theorem floatingValue_ne_integer (l : Literal) (n : Int) :
    l.floatingValue ≠ .ok (.integer n) := by
  unfold floatingValue
  intro h
  split at h
  split at h
  dsimp only at h
  split at h
  · cases h
  · cases h

theorem fits_of_value {l : Literal} {n : Int} (h : l.value = .ok (.integer n)) : Fits n := by
  have hle : signedBound < wordBound := by decide
  unfold value at h
  split at h
  · dsimp only [Int.ofNat_eq_natCast] at h
    split at h
    · split at h
      · cases h
        exact ⟨by omega, by omega⟩
      · exact absurd h (floatingValue_ne_integer l n)
    · split at h
      · cases h
        exact ⟨by omega, by omega⟩
      · exact absurd h (floatingValue_ne_integer l n)
  · exact absurd h (floatingValue_ne_integer l n)

end Literal

end ParserTables.Json
