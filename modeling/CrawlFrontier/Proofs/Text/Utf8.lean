import CrawlFrontier.Proofs.Text.Parts
import CrawlFrontier.Text.Utf8

/-!
# Bytes that are text

The ranges of lead bytes and of the bytes that follow them shut out everything that is not written
so. Main statement: the strict reader accepts the bytes of texts and no others, and it gives back
the text.
-/

namespace CrawlFrontier.Text

/-- A value that is no surrogate and lies below the last code point is that of its character. -/
theorem toNat_ofNat_of_bounds {n : Nat} (bounds : n < 0xD800 ∨ (0xE000 ≤ n ∧ n < 0x110000)) :
    (Char.ofNat n).val.toNat = n := by
  have valid : n.isValidChar := by
    unfold Nat.isValidChar
    omega
  rw [Char.ofNat, dif_pos valid]
  rfl

/-- Values below 2^7 are written as one byte. -/
theorem utf8EncodeChar_one {a : UInt8} (least : a.toNat < 0x80) :
    String.utf8EncodeChar (Char.ofNat a.toNat) = [a] := by
  have code := toNat_ofNat_of_bounds (n := a.toNat) (by omega)
  unfold String.utf8EncodeChar
  simp only [code]
  rw [if_pos (by omega), UInt8.ofNat_toNat]

/-- Values below 2^11 are written as two bytes. -/
theorem utf8EncodeChar_two {v : Nat} {a b : UInt8} (least : 0x80 ≤ v) (most : v < 0x800)
    (first : a.toNat = 0xC0 + v / 64) (second : b.toNat = 0x80 + v % 64) :
    String.utf8EncodeChar (Char.ofNat v) = [a, b] := by
  have code := toNat_ofNat_of_bounds (n := v) (by omega)
  unfold String.utf8EncodeChar
  simp only [code]
  rw [if_neg (by omega), if_pos (by omega)]
  have front : UInt8.ofNat (v / 64 % 32 + 192) = a := UInt8.toNat_inj.mp (by simp; omega)
  have last : UInt8.ofNat (v % 64 + 128) = b := UInt8.toNat_inj.mp (by simp; omega)
  rw [front, last]

/-- Values below 2^16 that are no surrogates are written as three bytes. -/
theorem utf8EncodeChar_three {v : Nat} {a b c : UInt8} (least : 0x800 ≤ v) (most : v < 0x10000)
    (bounds : v < 0xD800 ∨ 0xE000 ≤ v) (first : a.toNat = 0xE0 + v / 4096)
    (second : b.toNat = 0x80 + v / 64 % 64) (third : c.toNat = 0x80 + v % 64) :
    String.utf8EncodeChar (Char.ofNat v) = [a, b, c] := by
  have code := toNat_ofNat_of_bounds (n := v) (by omega)
  unfold String.utf8EncodeChar
  simp only [code]
  rw [if_neg (by omega), if_neg (by omega), if_pos (by omega)]
  have front : UInt8.ofNat (v / 4096 % 16 + 224) = a := UInt8.toNat_inj.mp (by simp; omega)
  have middle : UInt8.ofNat (v / 64 % 64 + 128) = b := UInt8.toNat_inj.mp (by simp; omega)
  have last : UInt8.ofNat (v % 64 + 128) = c := UInt8.toNat_inj.mp (by simp; omega)
  rw [front, middle, last]

/-- All other values are written as four bytes. -/
theorem utf8EncodeChar_four {v : Nat} {a b c d : UInt8} (least : 0x10000 ≤ v) (most : v < 0x110000)
    (first : a.toNat = 0xF0 + v / 262144) (second : b.toNat = 0x80 + v / 4096 % 64)
    (third : c.toNat = 0x80 + v / 64 % 64) (fourth : d.toNat = 0x80 + v % 64) :
    String.utf8EncodeChar (Char.ofNat v) = [a, b, c, d] := by
  have code := toNat_ofNat_of_bounds (n := v) (by omega)
  unfold String.utf8EncodeChar
  simp only [code]
  rw [if_neg (by omega), if_neg (by omega), if_neg (by omega)]
  have front : UInt8.ofNat (v / 262144 % 8 + 240) = a := UInt8.toNat_inj.mp (by simp; omega)
  have middle : UInt8.ofNat (v / 4096 % 64 + 128) = b := UInt8.toNat_inj.mp (by simp; omega)
  have next : UInt8.ofNat (v / 64 % 64 + 128) = c := UInt8.toNat_inj.mp (by simp; omega)
  have last : UInt8.ofNat (v % 64 + 128) = d := UInt8.toNat_inj.mp (by simp; omega)
  rw [front, middle, next, last]

variable {value low high : Nat} {bytes rest : List UInt8} {c : Char}

/-- A byte that follows is in its range, and what follows it completes the character. -/
theorem exists_of_readTail_succ {more : Nat}
    (read : readTail (more + 1) value low high bytes = (some c, rest)) :
    ∃ b front, bytes = b :: front ∧ low ≤ b.toNat ∧ b.toNat ≤ high ∧
      readTail more (value * 64 + (b.toNat - 0x80)) 0x80 0xBF front = (some c, rest) := by
  cases bytes with
  | nil => simp [readTail] at read
  | cons b front =>
    unfold readTail at read
    split at read
    · next range => exact ⟨b, front, rfl, range.1, range.2, read⟩
    · simp at read

/-- One byte that follows completes a character. -/
theorem exists_of_readTail_one (read : readTail 1 value low high bytes = (some c, rest)) :
    ∃ x, bytes = x :: rest ∧ low ≤ x.toNat ∧ x.toNat ≤ high ∧
      c = Char.ofNat (value * 64 + (x.toNat - 0x80)) := by
  obtain ⟨x, front, rfl, least, most, read⟩ := exists_of_readTail_succ read
  obtain ⟨char, rfl⟩ := Prod.mk.inj read
  exact ⟨x, rfl, least, most, (Option.some.inj char).symm⟩

/-- Two bytes that follow complete a character. -/
theorem exists_of_readTail_two (read : readTail 2 value low high bytes = (some c, rest)) :
    ∃ x y, bytes = x :: y :: rest ∧ (low ≤ x.toNat ∧ x.toNat ≤ high) ∧
      (0x80 ≤ y.toNat ∧ y.toNat ≤ 0xBF) ∧
      c = Char.ofNat ((value * 64 + (x.toNat - 0x80)) * 64 + (y.toNat - 0x80)) := by
  obtain ⟨x, front, rfl, least, most, read⟩ := exists_of_readTail_succ read
  obtain ⟨y, rfl, leastY, mostY, char⟩ := exists_of_readTail_one read
  exact ⟨x, y, rfl, ⟨least, most⟩, ⟨leastY, mostY⟩, char⟩

/-- Three bytes that follow complete a character. -/
theorem exists_of_readTail_three (read : readTail 3 value low high bytes = (some c, rest)) :
    ∃ x y z, bytes = x :: y :: z :: rest ∧ (low ≤ x.toNat ∧ x.toNat ≤ high) ∧
      (0x80 ≤ y.toNat ∧ y.toNat ≤ 0xBF) ∧ (0x80 ≤ z.toNat ∧ z.toNat ≤ 0xBF) ∧
      c = Char.ofNat (((value * 64 + (x.toNat - 0x80)) * 64 + (y.toNat - 0x80)) * 64 +
        (z.toNat - 0x80)) := by
  obtain ⟨x, front, rfl, least, most, read⟩ := exists_of_readTail_succ read
  obtain ⟨y, z, rfl, second, third, char⟩ := exists_of_readTail_two read
  exact ⟨x, y, z, rfl, ⟨least, most⟩, second, third, char⟩

/-- A byte that announces something is in the range of lead bytes. -/
theorem bounds_of_lead {n : Nat} {lead : Lead} (found : Lead.ofByte? n = some lead) :
    0xC2 ≤ n ∧ n ≤ 0xF4 := by
  unfold Lead.ofByte? at found
  constructor
  · by_contra low
    rw [if_pos (by omega)] at found
    cases found
  · by_contra high
    rw [if_neg (by omega), if_neg (by omega), if_neg (by omega), if_neg (by omega),
      if_neg (by omega), if_neg (by omega), if_neg (by omega), if_neg (by omega)] at found
    cases found

/-- What a lead byte announces: how many bytes follow, its share of the value, and ranges that shut
out other ways to write a value, surrogates and values beyond the last code point. -/
theorem lead_cases {n : Nat} {lead : Lead} (found : Lead.ofByte? n = some lead) :
    (0xC2 ≤ n ∧ n < 0xE0 ∧ lead = ⟨1, n - 0xC0, 0x80, 0xBF⟩) ∨
    (∃ low high, 0xE0 ≤ n ∧ n < 0xF0 ∧ lead = ⟨2, n - 0xE0, low, high⟩ ∧
      (0x80 ≤ low ∧ (n = 0xE0 → 0xA0 ≤ low)) ∧ high ≤ 0xBF ∧ (n = 0xED → high ≤ 0x9F)) ∨
    (∃ low high, 0xF0 ≤ n ∧ n ≤ 0xF4 ∧ lead = ⟨3, n - 0xF0, low, high⟩ ∧
      (0x80 ≤ low ∧ (n = 0xF0 → 0x90 ≤ low)) ∧ high ≤ 0xBF ∧ (n = 0xF4 → high ≤ 0x8F)) := by
  obtain ⟨least, most⟩ := bounds_of_lead found
  by_cases two : n < 0xE0
  · rw [Lead.ofByte?_two least two] at found
    exact .inl ⟨least, two, (Option.some.inj found).symm⟩
  by_cases three : n < 0xF0
  · rw [Lead.ofByte?_three (by omega) three] at found
    refine .inr (.inl ⟨_, _, by omega, three, (Option.some.inj found).symm, ?_, ?_⟩) <;>
      split <;> omega
  · rw [Lead.ofByte?_four (by omega) most] at found
    refine .inr (.inr ⟨_, _, by omega, most, (Option.some.inj found).symm, ?_, ?_⟩) <;>
      split <;> omega

/-- A character that is read was written. -/
theorem utf8EncodeChar_of_readChar {b : UInt8} (read : readChar b bytes = (some c, rest)) :
    String.utf8EncodeChar c ++ rest = b :: bytes := by
  unfold readChar at read
  split at read
  · next least =>
    obtain ⟨char, rfl⟩ := Prod.mk.inj read
    obtain rfl := Option.some.inj char
    rw [utf8EncodeChar_one least]
    rfl
  split at read
  · next lead found =>
    -- In each range of lead bytes the bytes that follow leave just the values of that length.
    rcases lead_cases found with ⟨least, most, rfl⟩ | ⟨low, high, least, most, rfl, lows, highs⟩ |
      ⟨low, high, least, most, rfl, lows, highs⟩
    · obtain ⟨x, rfl, leastX, mostX, char⟩ := exists_of_readTail_one read
      simp only at leastX mostX
      have written : String.utf8EncodeChar
          (Char.ofNat ((b.toNat - 0xC0) * 64 + (x.toNat - 0x80))) = [b, x] :=
        utf8EncodeChar_two (by omega) (by omega) (by omega) (by omega)
      rw [char, written]
      rfl
    · obtain ⟨x, y, rfl, second, third, char⟩ := exists_of_readTail_two read
      simp only at second
      have written : String.utf8EncodeChar
          (Char.ofNat (((b.toNat - 0xE0) * 64 + (x.toNat - 0x80)) * 64 + (y.toNat - 0x80))) =
          [b, x, y] :=
        utf8EncodeChar_three (by omega) (by omega) (by omega) (by omega) (by omega) (by omega)
      rw [char, written]
      rfl
    · obtain ⟨x, y, z, rfl, second, third, fourth, char⟩ := exists_of_readTail_three read
      simp only at second
      have written : String.utf8EncodeChar
          (Char.ofNat ((((b.toNat - 0xF0) * 64 + (x.toNat - 0x80)) * 64 + (y.toNat - 0x80)) * 64 +
            (z.toNat - 0x80))) = [b, x, y, z] :=
        utf8EncodeChar_four (by omega) (by omega) (by omega) (by omega) (by omega) (by omega)
      rw [char, written]
      rfl
  · simp at read

/-- Bytes of which every piece is a character are those of the characters. -/
theorem utf8_of_readChars (bytes : List UInt8) {text : List Char}
    (read : readChars bytes = text.map some) : utf8 text = bytes := by
  induction text generalizing bytes with
  | nil =>
    cases bytes with
    | nil => rfl
    | cons b bytes =>
      rw [readChars] at read
      cases read
  | cons c text ih =>
    cases bytes with
    | nil =>
      rw [readChars] at read
      cases read
    | cons b bytes =>
      rw [readChars, List.map_cons] at read
      obtain ⟨first, rest⟩ := List.cons.inj read
      have read : readChar b bytes = (some c, (readChar b bytes).2) := Prod.ext first rfl
      have written := utf8EncodeChar_of_readChar read
      rw [utf8, List.flatMap_cons]
      change String.utf8EncodeChar c ++ utf8 text = _
      rw [ih _ rest]
      exact written

/-- The strict reader accepts the bytes of texts and no others. -/
theorem fromUtf8?_eq_some_iff {text : List Char} :
    fromUtf8? bytes = some text ↔ utf8 text = bytes := by
  constructor
  · intro read
    have pieces : readChars bytes = text.map some := by
      have same := (mapM_eq_some_iff (f := id)).mp read
      rwa [List.map_id] at same
    exact utf8_of_readChars bytes pieces
  · rintro rfl
    exact fromUtf8?_utf8 text

end CrawlFrontier.Text
