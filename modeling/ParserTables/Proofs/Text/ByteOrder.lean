import Mathlib.Data.List.Basic
import Mathlib.Tactic.SplitIfs

/-!
# The order of texts and of their bytes

Texts are compared character by character. Their UTF-8 bytes are in the same order, because a
character with a greater code has greater bytes, whatever follows (`bytes_lt_of_lt`).
-/

namespace ParserTables.Text

/-- The UTF-8 bytes of a text. -/
def bytes (s : String) : List UInt8 := s.toUTF8.data.toList

theorem bytes_eq_flatMap (s : String) : bytes s = s.toList.flatMap String.utf8EncodeChar := by
  rw [bytes, String.toUTF8_eq_toByteArray, ← String.utf8Encode_toList, List.utf8Encode,
    List.toList_data_toByteArray]

theorem cons_ofNat_lt_cons {m n : Nat} (hm : m < 256) (hn : n < 256) (xs ys : List UInt8) :
    UInt8.ofNat m :: xs < UInt8.ofNat n :: ys ↔ m < n ∨ m = n ∧ xs < ys := by
  rw [List.cons_lt_cons_iff, UInt8.lt_iff_toNat_lt, ← UInt8.toNat_inj,
    UInt8.toNat_ofNat_of_lt' hm, UInt8.toNat_ofNat_of_lt' hn]

/-- The bytes of a greater character are greater, and no bytes that follow change that. -/
theorem utf8EncodeChar_lt {c d : Char} (h : c < d) (xs ys : List UInt8) :
    String.utf8EncodeChar c ++ xs < String.utf8EncodeChar d ++ ys := by
  have hlt : c.val.toNat < d.val.toNat := h
  have hd : d.val.toNat < 0x110000 := by
    rcases d.valid with h | h
    · exact Nat.lt_trans h (by decide)
    · exact h.2
  simp only [String.utf8EncodeChar]
  generalize c.val.toNat = m at *
  generalize d.val.toNat = n at *
  -- The bytes carry the digits of the code in base 64, and the first digit that differs decides.
  have hm₂ : m / 4096 = m / 64 / 64 := by omega
  have hn₂ : n / 4096 = n / 64 / 64 := by omega
  have hm₃ : m / 262144 = m / 64 / 64 / 64 := by omega
  have hn₃ : n / 262144 = n / 64 / 64 / 64 := by omega
  have htop : m / 64 / 64 / 64 < 8 ∧ n / 64 / 64 / 64 < 8 := by omega
  have hdigits : m / 64 / 64 / 64 < n / 64 / 64 / 64 ∨ m / 64 / 64 / 64 = n / 64 / 64 / 64 ∧
      (m / 64 / 64 % 64 < n / 64 / 64 % 64 ∨ m / 64 / 64 % 64 = n / 64 / 64 % 64 ∧
        (m / 64 % 64 < n / 64 % 64 ∨ m / 64 % 64 = n / 64 % 64 ∧ m % 64 < n % 64)) := by
    omega
  rw [hm₂, hn₂, hm₃, hn₃, Nat.mod_eq_of_lt htop.1, Nat.mod_eq_of_lt htop.2]
  -- A longer sequence starts with a greater byte.
  split_ifs
  all_goals
    simp (disch := omega) only [List.cons_append, List.nil_append, cons_ofNat_lt_cons]
    omega

theorem utf8EncodeChar_ne_nil (c : Char) : String.utf8EncodeChar c ≠ [] := by
  rw [← List.length_pos_iff, String.length_utf8EncodeChar]
  exact c.utf8Size_pos

theorem flatMap_utf8EncodeChar_lt {cs ds : List Char} (h : cs < ds) :
    cs.flatMap String.utf8EncodeChar < ds.flatMap String.utf8EncodeChar := by
  induction cs generalizing ds with
  | nil =>
      cases ds with
      | nil => exact absurd h (List.lt_irrefl [])
      | cons d ds =>
          obtain ⟨b, bs, hb⟩ := List.exists_cons_of_ne_nil (utf8EncodeChar_ne_nil d)
          rw [List.flatMap_nil, List.flatMap_cons, hb]
          exact List.nil_lt_cons b _
  | cons c cs ih =>
      cases ds with
      | nil => exact absurd h (List.not_lt_nil _)
      | cons d ds =>
          rw [List.flatMap_cons, List.flatMap_cons]
          rcases List.cons_lt_cons_iff.1 h with hcd | ⟨rfl, hrest⟩
          · exact utf8EncodeChar_lt hcd _ _
          · exact List.append_left_lt (ih hrest)

/-- A text that comes before another has bytes that come before. -/
theorem bytes_lt_of_lt {s t : String} (h : s < t) : bytes s < bytes t := by
  rw [bytes_eq_flatMap, bytes_eq_flatMap]
  exact flatMap_utf8EncodeChar_lt (String.lt_iff.1 h)

end ParserTables.Text
