import CrawlFrontier.Text.Utf8
import Mathlib.Tactic.ByContra

/-!
# The order of texts

Texts are compared by their characters and, where they are written, by their bytes. Main statement:
both ways give the same order.
-/

namespace CrawlFrontier.Text

/-- Bytes that are written as numbers are compared like the numbers. -/
theorem cons_ofNat_lt_iff {m n : Nat} (smallM : m < 256) (smallN : n < 256)
    {front back : List UInt8} :
    UInt8.ofNat m :: front < UInt8.ofNat n :: back ↔ m < n ∨ m = n ∧ front < back := by
  rw [List.cons_lt_cons_iff, UInt8.lt_iff_toNat_lt, ← UInt8.toNat_inj,
    UInt8.toNat_ofNat_of_lt' smallM, UInt8.toNat_ofNat_of_lt' smallN]

/-- The bytes of a smaller character come first, whatever follows them. -/
theorem utf8EncodeChar_append_lt {c d : Char} (less : c < d) (front back : List UInt8) :
    String.utf8EncodeChar c ++ front < String.utf8EncodeChar d ++ back := by
  have codeC : c.val.toNat = c.toNat := rfl
  have codeD : d.val.toNat = d.toNat := rfl
  have order : c.toNat < d.toNat := less
  have boundsC := char_bounds c
  have boundsD := char_bounds d
  -- The bytes hold six bits each, so they are the digits of the code point to base 64.
  have middleC : c.toNat / 64 / 64 = c.toNat / 4096 := Nat.div_div_eq_div_mul ..
  have middleD : d.toNat / 64 / 64 = d.toNat / 4096 := Nat.div_div_eq_div_mul ..
  have highC : c.toNat / 4096 / 64 = c.toNat / 262144 := Nat.div_div_eq_div_mul ..
  have highD : d.toNat / 4096 / 64 = d.toNat / 262144 := Nat.div_div_eq_div_mul ..
  unfold String.utf8EncodeChar
  simp only [codeC, codeD]
  repeat' split
  -- Among as many bytes the first digit that differs decides; more bytes have a larger first byte.
  all_goals
    simp (disch := omega) only [List.cons_append, List.nil_append, cons_ofNat_lt_iff,
      Nat.mod_eq_of_lt]
    omega

/-- The bytes of a smaller text come first. -/
theorem utf8_lt {a b : List Char} (less : a < b) : utf8 a < utf8 b := by
  induction less with
  | @nil c b =>
    obtain ⟨first, others, written, -⟩ := readChar_utf8EncodeChar c []
    simp [utf8, written]
  | rel less => exact utf8EncodeChar_append_lt less _ _
  | cons _ ih => exact List.append_left_lt ih

/-- Texts are in the order of their bytes. -/
theorem utf8_lt_iff {a b : String} : utf8 a.toList < utf8 b.toList ↔ a < b := by
  refine ⟨fun bytes => ?_, utf8_lt⟩
  by_contra other
  by_cases same : a = b
  · rw [same] at bytes
    exact List.lt_irrefl _ bytes
  · have greater : b < a := by
      by_contra least
      exact same (String.le_antisymm least other)
    exact List.lt_asymm bytes (utf8_lt greater)

/-- A text that comes last is one whose bytes come last. -/
theorem utf8_le_iff {a b : String} : utf8 a.toList ≤ utf8 b.toList ↔ a ≤ b :=
  not_congr utf8_lt_iff

end CrawlFrontier.Text
