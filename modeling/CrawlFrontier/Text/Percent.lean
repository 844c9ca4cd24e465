import CrawlFrontier.Text.Ascii
import CrawlFrontier.Text.Utf8

/-!
# Percent signs

A byte is written as a percent sign and two hexadecimal digits. Which characters need it differs
from place to place and is a parameter. Main statement: decoding what was encoded gives the bytes of
the text, if the percent sign itself is escaped.
-/

namespace CrawlFrontier.Text

/-- The three characters that stand for a byte. -/
def percentByte (b : UInt8) : List Char :=
  ['%', upperHexDigit (b.toNat / 16), upperHexDigit (b.toNat % 16)]

/-- A character as it is or, where it must be escaped, its bytes. -/
def percentChar (escaped : Char → Bool) (c : Char) : List Char :=
  if escaped c then (String.utf8EncodeChar c).flatMap percentByte else [c]

/-- Writes a text so that no character that must be escaped stands in it. -/
def percentEncode (escaped : Char → Bool) (text : List Char) : List Char :=
  text.flatMap (percentChar escaped)

/-- The bytes of a text in which a percent sign and two hexadecimal digits stand for a byte. A
percent sign without its digits stands for itself. -/
def percentDecode : List Char → List UInt8
  | [] => []
  | '%' :: a :: b :: rest =>
    match hexValue? a, hexValue? b with
    | some m, some n => UInt8.ofNat (m * 16 + n) :: percentDecode rest
    | _, _ => String.utf8EncodeChar '%' ++ percentDecode (a :: b :: rest)
  | c :: rest => String.utf8EncodeChar c ++ percentDecode rest

/-- A byte that was written is read back. -/
theorem percentDecode_percentByte (b : UInt8) (rest : List Char) :
    percentDecode (percentByte b ++ rest) = b :: percentDecode rest := by
  have bound : b.toNat < 256 := b.toNat_lt
  simp only [percentByte, List.cons_append, List.nil_append]
  rw [percentDecode, hexValue?_upperHexDigit (by omega), hexValue?_upperHexDigit (by omega)]
  simp only [List.cons.injEq, and_true]
  rw [show b.toNat / 16 * 16 + b.toNat % 16 = b.toNat by omega]
  simp

/-- Bytes that were written are read back. -/
theorem percentDecode_flatMap_percentByte (bytes : List UInt8) (rest : List Char) :
    percentDecode (bytes.flatMap percentByte ++ rest) = bytes ++ percentDecode rest := by
  induction bytes with
  | nil => rfl
  | cons b bytes ih =>
    rw [List.flatMap_cons, List.append_assoc, percentDecode_percentByte, ih]
    rfl

/-- A character other than the percent sign stands for its bytes. -/
theorem percentDecode_cons_of_ne {c : Char} (h : c ≠ '%') (rest : List Char) :
    percentDecode (c :: rest) = String.utf8EncodeChar c ++ percentDecode rest := by
  rw [percentDecode]
  rintro a b tail rfl
  exact absurd rfl h

/-- Decoding what was encoded gives the bytes of the text. -/
theorem percentDecode_percentEncode {escaped : Char → Bool} (h : escaped '%' = true)
    (text rest : List Char) :
    percentDecode (percentEncode escaped text ++ rest) = utf8 text ++ percentDecode rest := by
  induction text with
  | nil => rfl
  | cons c text ih =>
    have split : percentEncode escaped (c :: text) ++ rest
        = percentChar escaped c ++ (percentEncode escaped text ++ rest) := by
      simp [percentEncode]
    rw [split]
    by_cases hc : escaped c = true
    · rw [percentChar, if_pos hc, percentDecode_flatMap_percentByte, ih]
      simp [utf8]
    · rw [percentChar, if_neg hc, List.singleton_append, percentDecode_cons_of_ne, ih]
      · simp [utf8]
      · rintro rfl
        exact hc h

end CrawlFrontier.Text
