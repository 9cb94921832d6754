import Mathlib.Algebra.Group.Nat.Defs
import Mathlib.Tactic.Common
import ParserTables.Text.Numeral

/-!
# Numerals that are read back

What the digits of a number are, and that they stand for the number.
-/

namespace ParserTables.Text

/-! ### Decimal -/

theorem isDigit_of_mem_decimal {n : Nat} {c : Char} (h : c ∈ decimal n) : c.isDigit = true :=
  Nat.isDigit_of_mem_toDigits (by decide) (by decide) h

theorem decimalValue_decimal (n : Nat) : decimalValue (decimal n) = n :=
  Nat.ofDigitChars_ten_toDigits

theorem exists_decimal_eq_cons (n : Nat) :
    ∃ c cs, decimal n = c :: cs ∧ c.isDigit = true := by
  obtain ⟨c, cs, hc⟩ := List.exists_cons_of_ne_nil (Nat.toDigits_ne_nil (n := n) (b := 10))
  exact ⟨c, cs, hc, isDigit_of_mem_decimal (n := n) (by rw [decimal, hc]; exact List.mem_cons_self)⟩

/-- The digits of a number that is not zero do not start with a zero. -/
theorem exists_decimal_eq_cons_of_pos {n : Nat} (h : 0 < n) :
    ∃ c cs, decimal n = c :: cs ∧ c ≠ '0' := by
  induction n using Nat.strongRecOn with
  | ind n ih =>
      by_cases hn : n < 10
      · refine ⟨n.digitChar, [], Nat.toDigits_of_lt_base hn, ?_⟩
        have hall : ∀ d < 10, 0 < d → Nat.digitChar d ≠ '0' := by decide
        exact hall n hn h
      · obtain ⟨c, cs, hc, hne⟩ := ih (n / 10) (by omega) (by omega)
        refine ⟨c, cs ++ [(n % 10).digitChar], ?_, hne⟩
        rw [decimal, Nat.toDigits_of_base_le (by decide) (Nat.le_of_not_lt hn)]
        rw [decimal] at hc
        rw [hc, List.cons_append]

/-! ### Hexadecimal -/

theorem hexDigit?_digitChar : ∀ d < 16, hexDigit? (Nat.digitChar d) = some d := by decide

/-- The number that hexadecimal digits stand for. -/
def hexValue (digits : List Char) : Nat :=
  digits.foldl (fun n c => 16 * n + (hexDigit? c).getD 0) 0

/-- The hexadecimal digits of a number are made by adding one digit after the other. -/
theorem toDigits_sixteen_induction {P : List Char → Nat → Prop}
    (single : ∀ d < 16, P [Nat.digitChar d] d)
    (snoc : ∀ n d ds, d < 16 → P ds n → P (ds ++ [Nat.digitChar d]) (16 * n + d)) (n : Nat) :
    P (Nat.toDigits 16 n) n := by
  induction n using Nat.strongRecOn with
  | ind n ih =>
      by_cases hn : n < 16
      · rw [Nat.toDigits_of_lt_base hn]
        exact single n hn
      · rw [Nat.toDigits_of_base_le (by decide) (Nat.le_of_not_lt hn)]
        have hstep := snoc (n / 16) (n % 16) _ (by omega) (ih (n / 16) (by omega))
        rwa [Nat.div_add_mod] at hstep

theorem exists_digitChar_of_mem_hex {width n : Nat} {c : Char} (h : c ∈ hex width n) :
    ∃ d < 16, c = Nat.digitChar d := by
  have hdigits : ∀ c ∈ Nat.toDigits 16 n, ∃ d < 16, c = Nat.digitChar d := by
    refine toDigits_sixteen_induction (P := fun ds _ => ∀ c ∈ ds, ∃ d < 16, c = Nat.digitChar d)
      (fun d hd c hc => ?_) (fun n d ds hd ih c hc => ?_) n
    · exact ⟨d, hd, List.mem_singleton.1 hc⟩
    · rcases List.mem_append.1 hc with hc | hc
      · exact ih c hc
      · exact ⟨d, hd, List.mem_singleton.1 hc⟩
  rcases List.mem_append.1 h with h | h
  · exact ⟨0, by decide, (List.mem_replicate.1 h).2⟩
  · exact hdigits c h

theorem exists_hexDigit?_of_mem_hex {width n : Nat} {c : Char} (h : c ∈ hex width n) :
    ∃ d, hexDigit? c = some d := by
  obtain ⟨d, hd, rfl⟩ := exists_digitChar_of_mem_hex h
  exact ⟨d, hexDigit?_digitChar d hd⟩

theorem hexValue_hex (width n : Nat) : hexValue (hex width n) = n := by
  have hzeros : ∀ k, hexValue (List.replicate k '0') = 0 := by
    intro k
    induction k with
    | zero => rfl
    | succ k ih => rw [List.replicate_succ', hexValue, List.foldl_append, ← hexValue, ih]; rfl
  have hdigits : hexValue (Nat.toDigits 16 n) = n := by
    refine toDigits_sixteen_induction (P := fun ds n => hexValue ds = n)
      (fun d hd => ?_) (fun n d ds hd ih => ?_) n
    · simp [hexValue, hexDigit?_digitChar d hd]
    · rw [hexValue, List.foldl_append, ← hexValue, ih]
      simp [hexDigit?_digitChar d hd]
  rw [hex, hexValue, List.foldl_append, ← hexValue, hzeros]
  exact hdigits

theorem length_hex {width n : Nat} (hw : 0 < width) (h : n < 16 ^ width) :
    (hex width n).length = width := by
  have hle := (Nat.length_toDigits_le_iff (b := 16) (by decide) hw).2 h
  rw [hex, List.length_append, List.length_replicate, Nat.sub_add_cancel hle]

/-! ### Hexadecimal in upper case -/

theorem isUpper_or_isDigit_of_mem_upperHex {width n : Nat} {c : Char} (h : c ∈ upperHex width n) :
    c.isUpper ∨ c.isDigit := by
  have hall : ∀ d < 16, (Nat.digitChar d).toUpper.isUpper ∨ (Nat.digitChar d).toUpper.isDigit := by
    decide
  obtain ⟨d, hd, rfl⟩ := List.mem_map.1 h
  obtain ⟨m, hm, rfl⟩ := exists_digitChar_of_mem_hex hd
  exact hall m hm

/-- Lower case gives the digits back, and these the number. -/
theorem upperHex_injective (width : Nat) : Function.Injective (upperHex width) := by
  intro n m h
  have hall : ∀ d < 16, (Nat.digitChar d).toUpper.toLower = Nat.digitChar d := by decide
  have hlower : ∀ n, (upperHex width n).map Char.toLower = hex width n := by
    intro n
    rw [upperHex, List.map_map]
    refine (List.map_congr_left fun c hc => ?_).trans (List.map_id _)
    obtain ⟨d, hd, rfl⟩ := exists_digitChar_of_mem_hex hc
    exact hall d hd
  rw [← hexValue_hex width n, ← hlower, h, hlower, hexValue_hex]

end ParserTables.Text
