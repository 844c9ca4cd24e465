/-!
# UTF-8

Writing text as bytes and reading bytes as text. The tolerant reader puts one replacement character
for every maximal piece that begins like a character and does not end like one; the strict reader
refuses such input, and so does the reader of files. Main statement: what was written is read back,
by both.
-/

namespace CrawlFrontier.Text

/-- The bytes of a text. -/
def utf8 (text : List Char) : List UInt8 := text.flatMap String.utf8EncodeChar

/-- The character that stands for what is no text. -/
def replacement : Char := '\uFFFD'

/-- The text without a byte order mark in front. -/
def dropByteOrderMark : List Char → List Char
  | '\uFEFF' :: text => text
  | text => text

/-- What a lead byte announces: how many bytes follow, its share of the value, and the range of the
first byte that follows. -/
structure Lead where
  more : Nat
  value : Nat
  low : Nat
  high : Nat

/-- Reads a lead byte of a sequence of two to four bytes. The ranges shut out overlong forms,
surrogates and values beyond the last code point. -/
def Lead.ofByte? (n : Nat) : Option Lead :=
  if n < 0xC2 then none
  else if n < 0xE0 then some ⟨1, n - 0xC0, 0x80, 0xBF⟩
  else if n = 0xE0 then some ⟨2, 0, 0xA0, 0xBF⟩
  else if n = 0xED then some ⟨2, 0xD, 0x80, 0x9F⟩
  else if n < 0xF0 then some ⟨2, n - 0xE0, 0x80, 0xBF⟩
  else if n = 0xF0 then some ⟨3, 0, 0x90, 0xBF⟩
  else if n < 0xF4 then some ⟨3, n - 0xF0, 0x80, 0xBF⟩
  else if n = 0xF4 then some ⟨3, 4, 0x80, 0x8F⟩
  else none

/-- Reads the bytes that follow a lead byte: the character they complete, or nothing where the
sequence breaks off, and the bytes behind what was read. -/
def readTail : Nat → Nat → Nat → Nat → List UInt8 → Option Char × List UInt8
  | 0, value, _, _, bytes => (some (Char.ofNat value), bytes)
  | _ + 1, _, _, _, [] => (none, [])
  | more + 1, value, low, high, b :: bytes =>
    if low ≤ b.toNat ∧ b.toNat ≤ high then
      readTail more (value * 64 + (b.toNat - 0x80)) 0x80 0xBF bytes
    else (none, b :: bytes)

/-- What is left after a sequence is no longer than what followed its lead byte. -/
theorem length_readTail (more value low high : Nat) (bytes : List UInt8) :
    (readTail more value low high bytes).2.length ≤ bytes.length := by
  induction more generalizing value low high bytes with
  | zero => simp [readTail]
  | succ more ih =>
    cases bytes with
    | nil => simp [readTail]
    | cons b bytes =>
      unfold readTail
      split
      · exact Nat.le_succ_of_le (ih _ _ _ _)
      · simp

/-- Reads one character from bytes of which the first is given. -/
def readChar (b : UInt8) (bytes : List UInt8) : Option Char × List UInt8 :=
  if b.toNat < 0x80 then (some (Char.ofNat b.toNat), bytes)
  else
    match Lead.ofByte? b.toNat with
    | some lead => readTail lead.more lead.value lead.low lead.high bytes
    | none => (none, bytes)

/-- Reading a character leaves at most the bytes behind its first. -/
theorem length_readChar (b : UInt8) (bytes : List UInt8) :
    (readChar b bytes).2.length ≤ bytes.length := by
  unfold readChar
  split
  · exact Nat.le_refl _
  · split
    · exact length_readTail ..
    · exact Nat.le_refl _

/-- The characters read from bytes, with nothing where bytes are no text. -/
def readChars : List UInt8 → List (Option Char)
  | [] => []
  | b :: bytes => (readChar b bytes).1 :: readChars (readChar b bytes).2
termination_by bytes => bytes.length
decreasing_by exact Nat.lt_succ_of_le (length_readChar b bytes)

/-- Reads bytes as text and puts the replacement character for what is no text. -/
def fromUtf8Lossy (bytes : List UInt8) : List Char :=
  (readChars bytes).map (·.getD replacement)

/-- Reads bytes as text and refuses what is no text. -/
def fromUtf8? (bytes : List UInt8) : Option (List Char) := (readChars bytes).mapM id

/-- A character is no surrogate and lies below the last code point. -/
theorem char_bounds (c : Char) : c.toNat < 0xD800 ∨ (0xE000 ≤ c.toNat ∧ c.toNat < 0x110000) := by
  have v := c.valid
  have e : c.val.toNat = c.toNat := rfl
  simp only [UInt32.isValidChar, Nat.isValidChar] at v
  rw [e] at v
  omega

/-- The lead byte of a sequence of two bytes. -/
theorem Lead.ofByte?_two {n : Nat} (least : 0xC2 ≤ n) (most : n < 0xE0) :
    Lead.ofByte? n = some ⟨1, n - 0xC0, 0x80, 0xBF⟩ := by
  unfold Lead.ofByte?
  rw [if_neg (by omega), if_pos most]

/-- The lead byte of a sequence of three bytes. What follows the first of them is no overlong form
and behind the one of the surrogates none of these. -/
theorem Lead.ofByte?_three {n : Nat} (least : 0xE0 ≤ n) (most : n < 0xF0) :
    Lead.ofByte? n = some ⟨2, n - 0xE0, if n = 0xE0 then 0xA0 else 0x80,
      if n = 0xED then 0x9F else 0xBF⟩ := by
  unfold Lead.ofByte?
  rw [if_neg (by omega), if_neg (by omega)]
  by_cases first : n = 0xE0
  · subst first
    rfl
  by_cases surrogates : n = 0xED
  · subst surrogates
    rfl
  rw [if_neg first, if_neg surrogates, if_pos most, if_neg first, if_neg surrogates]

/-- The lead byte of a sequence of four bytes. What follows the first of them is no overlong form
and behind the last one no value beyond the last code point. -/
theorem Lead.ofByte?_four {n : Nat} (least : 0xF0 ≤ n) (most : n ≤ 0xF4) :
    Lead.ofByte? n = some ⟨3, n - 0xF0, if n = 0xF0 then 0x90 else 0x80,
      if n = 0xF4 then 0x8F else 0xBF⟩ := by
  unfold Lead.ofByte?
  rw [if_neg (by omega), if_neg (by omega), if_neg (by omega), if_neg (by omega),
    if_neg (by omega)]
  by_cases first : n = 0xF0
  · subst first
    rfl
  by_cases last : n = 0xF4
  · subst last
    rfl
  rw [if_neg first, if_pos (by omega), if_neg first, if_neg last]

/-- A byte in range adds its six bits. -/
theorem readTail_succ {more value low high : Nat} {b : UInt8} (above : low ≤ b.toNat)
    (below : b.toNat ≤ high) (bytes : List UInt8) :
    readTail (more + 1) value low high (b :: bytes) =
      readTail more (value * 64 + (b.toNat - 0x80)) 0x80 0xBF bytes :=
  if_pos ⟨above, below⟩

/-- A sequence is read as its lead byte announces. -/
theorem readChar_of_lead {b : UInt8} {more value low high : Nat}
    (announced : Lead.ofByte? b.toNat = some ⟨more, value, low, high⟩) (bytes : List UInt8) :
    readChar b bytes = readTail more value low high bytes := by
  have beyond : ¬b.toNat < 0x80 := by
    intro ascii
    rw [Lead.ofByte?, if_pos (by omega)] at announced
    cases announced
  rw [readChar, if_neg beyond, announced]

section

variable {char : Char} {a b c d : UInt8}

/-- A character below 2^7 is read from one byte. -/
theorem readChar_one (most : char.toNat < 0x80) (only : a.toNat = char.toNat) (rest : List UInt8) :
    readChar a rest = (some char, rest) := by
  rw [readChar, only, if_pos most, Char.ofNat_toNat]

/-- A character below 2^11 is read from two bytes. -/
theorem readChar_two (least : 0x80 ≤ char.toNat) (most : char.toNat < 0x800)
    (first : a.toNat = char.toNat / 64 + 0xC0) (second : b.toNat = char.toNat % 64 + 0x80)
    (rest : List UInt8) : readChar a (b :: rest) = (some char, rest) := by
  have value : (a.toNat - 0xC0) * 64 + (b.toNat - 0x80) = char.toNat := by omega
  rw [readChar_of_lead (Lead.ofByte?_two (by omega) (by omega)),
    readTail_succ (by omega) (by omega), value, readTail, Char.ofNat_toNat]

/-- A character below 2^16 is read from three bytes. -/
theorem readChar_three (least : 0x800 ≤ char.toNat) (most : char.toNat < 0x10000)
    (first : a.toNat = char.toNat / 4096 + 0xE0) (second : b.toNat = char.toNat / 64 % 64 + 0x80)
    (third : c.toNat = char.toNat % 64 + 0x80) (rest : List UInt8) :
    readChar a (b :: c :: rest) = (some char, rest) := by
  have bounds := char_bounds char
  have value : ((a.toNat - 0xE0) * 64 + (b.toNat - 0x80)) * 64 + (c.toNat - 0x80) = char.toNat := by
    omega
  have above : (if a.toNat = 0xE0 then 0xA0 else 0x80) ≤ b.toNat := by split <;> omega
  have below : b.toNat ≤ if a.toNat = 0xED then 0x9F else 0xBF := by split <;> omega
  rw [readChar_of_lead (Lead.ofByte?_three (by omega) (by omega)), readTail_succ above below,
    readTail_succ (by omega) (by omega), value, readTail, Char.ofNat_toNat]

/-- Any other character is read from four bytes. -/
theorem readChar_four (least : 0x10000 ≤ char.toNat) (first : a.toNat = char.toNat / 262144 + 0xF0)
    (second : b.toNat = char.toNat / 4096 % 64 + 0x80)
    (third : c.toNat = char.toNat / 64 % 64 + 0x80) (fourth : d.toNat = char.toNat % 64 + 0x80)
    (rest : List UInt8) : readChar a (b :: c :: d :: rest) = (some char, rest) := by
  have bounds := char_bounds char
  have value : (((a.toNat - 0xF0) * 64 + (b.toNat - 0x80)) * 64 + (c.toNat - 0x80)) * 64 +
      (d.toNat - 0x80) = char.toNat := by
    omega
  have above : (if a.toNat = 0xF0 then 0x90 else 0x80) ≤ b.toNat := by split <;> omega
  have below : b.toNat ≤ if a.toNat = 0xF4 then 0x8F else 0xBF := by split <;> omega
  rw [readChar_of_lead (Lead.ofByte?_four (by omega) (by omega)), readTail_succ above below,
    readTail_succ (by omega) (by omega), readTail_succ (by omega) (by omega), value, readTail,
    Char.ofNat_toNat]

end

/-- A character that was written is read back, whatever follows it. -/
theorem readChar_utf8EncodeChar (c : Char) (rest : List UInt8) :
    ∃ b bytes, String.utf8EncodeChar c = b :: bytes ∧
      readChar b (bytes ++ rest) = (some c, rest) := by
  have bounds := char_bounds c
  have code : c.val.toNat = c.toNat := rfl
  -- What is written of a value is below 2^8, so that a byte holds it.
  have byte {n m : Nat} (small : n % 256 = m) : (UInt8.ofNat n).toNat = m := by
    rw [UInt8.toNat_ofNat', small]
  unfold String.utf8EncodeChar
  simp only [code]
  split
  · exact ⟨_, _, rfl, readChar_one (by omega) (byte (by omega)) rest⟩
  split
  · exact ⟨_, _, rfl, readChar_two (by omega) (by omega) (byte (by omega)) (byte (by omega)) rest⟩
  split
  · exact ⟨_, _, rfl, readChar_three (by omega) (by omega) (byte (by omega)) (byte (by omega))
      (byte (by omega)) rest⟩
  · exact ⟨_, _, rfl, readChar_four (by omega) (byte (by omega)) (byte (by omega))
      (byte (by omega)) (byte (by omega)) rest⟩

/-- Reading what was written finds the characters and no broken bytes. -/
theorem readChars_utf8 (text : List Char) : readChars (utf8 text) = text.map some := by
  induction text with
  | nil => simp [utf8, readChars]
  | cons c text ih =>
    obtain ⟨b, bytes, hb, hr⟩ := readChar_utf8EncodeChar c (utf8 text)
    have : utf8 (c :: text) = b :: (bytes ++ utf8 text) := by simp [utf8, hb]
    rw [this, readChars, hr, ih]
    rfl

/-- The tolerant reader gives back what was written. -/
theorem fromUtf8Lossy_utf8 (text : List Char) : fromUtf8Lossy (utf8 text) = text := by
  rw [fromUtf8Lossy, readChars_utf8, List.map_map]
  exact List.map_id' text

/-- The strict reader gives back what was written. -/
theorem fromUtf8?_utf8 (text : List Char) : fromUtf8? (utf8 text) = some text := by
  rw [fromUtf8?, readChars_utf8]
  induction text with
  | nil => rfl
  | cons c text ih =>
    simp only [List.map_cons, List.mapM_cons, id_eq, ih]
    rfl

end CrawlFrontier.Text

namespace CrawlFrontier

/-- Why a file gives no text. -/
inductive ReadError where
  | missing
  | notText
  deriving DecidableEq, Repr

/-- The wording of a cause. -/
def ReadError.message : ReadError → String
  | missing => "No such file or directory (os error 2)"
  | notText => "stream did not contain valid UTF-8"

/-- The text of a file with the given bytes; there are none if there is no file. -/
def readText (bytes : Option (List UInt8)) : Except ReadError String :=
  match bytes with
  | none => .error .missing
  | some bytes =>
    match Text.fromUtf8? bytes with
    | some text => .ok (String.ofList text)
    | none => .error .notText

end CrawlFrontier
