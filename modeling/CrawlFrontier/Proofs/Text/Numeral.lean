import CrawlFrontier.Text.Ascii

/-!
# Numerals

Main statements: a number that was printed is read back, also with zeros in front of it and with
its digits in either case.
-/

namespace CrawlFrontier.Text

/-- The digits in which numbers are printed. -/
def printedDigits (base : Nat) : List Char := (List.range base).map Nat.digitChar

/-- A number is printed by digits of its base alone. -/
theorem mem_toDigits {base n : Nat} (large : 1 < base) {c : Char} (mem : c ∈ Nat.toDigits base n) :
    c ∈ printedDigits base := by
  induction n using Nat.strongRecOn with
  | ind n ih =>
    rw [Nat.toDigits_eq_if large] at mem
    split at mem
    · next small =>
      rw [List.mem_singleton.mp mem]
      exact List.mem_map_of_mem (List.mem_range.mpr small)
    · next wide =>
      rcases List.mem_append.mp mem with front | last
      · exact ih (n / base) (Nat.div_lt_self (by omega) large) front
      · rw [List.mem_singleton.mp last]
        exact List.mem_map_of_mem (List.mem_range.mpr (Nat.mod_lt n (by omega)))

/-- A printed digit has its value. -/
theorem hexValue?_digitChar {n : Nat} (small : n < 16) : hexValue? n.digitChar = some n := by
  have all : ∀ m ∈ List.range 16, hexValue? m.digitChar = some m := by decide
  exact all n (List.mem_range.mpr small)

/-- The value of a numeral with one more digit. -/
theorem numeral?_concat {base d : Nat} (front : List Char) (small : d < base)
    (bound : base ≤ 16) :
    numeral? base (front ++ [d.digitChar]) = (numeral? base front).map (· * base + d) := by
  have value : hexValue? d.digitChar = some d := hexValue?_digitChar (by omega)
  simp only [numeral?, List.foldlM_append, List.foldlM_cons, List.foldlM_nil, value, if_pos small]
  exact Option.map_eq_bind.symm

/-- A printed number is read back. -/
theorem numeral?_toDigits {base : Nat} (large : 1 < base) (bound : base ≤ 16) (n : Nat) :
    numeral? base (Nat.toDigits base n) = some n := by
  induction n using Nat.strongRecOn with
  | ind n ih =>
    rw [Nat.toDigits_eq_if large]
    split
    · next small =>
      have read := numeral?_concat [] small bound
      rw [List.nil_append] at read
      rw [read, numeral?, List.foldlM_nil]
      simp
    · next wide =>
      have less : n / base < n := Nat.div_lt_self (by omega) large
      have whole : n / base * base + n % base = n := Nat.div_add_mod' n base
      rw [numeral?_concat _ (Nat.mod_lt n (by omega)) bound, ih (n / base) less, Option.map_some,
        whole]

/-- What is the same for the letters in either case is the same for all characters. -/
theorem apply_toLower {α : Type} {f : Char → α}
    (letters : ∀ n ∈ List.range 26, f (Char.ofNat (65 + n)).toLower = f (Char.ofNat (65 + n)))
    (c : Char) : f c.toLower = f c := by
  by_cases upper : 65 ≤ c.toNat ∧ c.toNat ≤ 90
  · have letter := letters (c.toNat - 65) (List.mem_range.mpr (by omega))
    rwa [Nat.add_sub_cancel' upper.1, Char.ofNat_toNat] at letter
  · unfold Char.toLower
    rw [dif_neg]
    rintro ⟨least, greatest⟩
    exact upper ⟨UInt32.le_iff_toNat_le.mp least, UInt32.le_iff_toNat_le.mp greatest⟩

/-- A character that is no letter is the lower case of no other. -/
theorem toLower_eq_iff {mark : Char}
    (noLetter : ∀ n ∈ List.range 26,
      ((Char.ofNat (65 + n)).toLower == mark) = (Char.ofNat (65 + n) == mark)) {c : Char} :
    c.toLower = mark ↔ c = mark := by
  have same := apply_toLower (f := (· == mark)) noLetter c
  rw [← beq_iff_eq, same, beq_iff_eq]

/-- A character that is no letter stands in a text exactly if it stands there in lower case. -/
theorem mem_lower_iff {mark : Char}
    (noLetter : ∀ n ∈ List.range 26,
      ((Char.ofNat (65 + n)).toLower == mark) = (Char.ofNat (65 + n) == mark))
    {text : List Char} : mark ∈ lower text ↔ mark ∈ text := by
  simp [lower, toLower_eq_iff noLetter]

/-- A digit has its value in either case. -/
theorem hexValue?_toLower (c : Char) : hexValue? c.toLower = hexValue? c :=
  apply_toLower (by decide) c

/-- A numeral has its value in either case. -/
theorem numeral?_lower (base : Nat) (digits : List Char) :
    numeral? base (lower digits) = numeral? base digits := by
  rw [numeral?, lower, List.foldlM_map]
  simp only [hexValue?_toLower]
  rfl

/-- Zeros in front of a numeral add nothing to its value. -/
theorem numeral?_zeros {base : Nat} (filled : 0 < base) (zeros : Nat) (digits : List Char) :
    numeral? base (List.replicate zeros '0' ++ digits) = numeral? base digits := by
  induction zeros with
  | zero => rfl
  | succ zeros ih =>
    rw [← ih, List.replicate_succ, List.cons_append]
    have zero : hexValue? '0' = some 0 := rfl
    simp [numeral?, zero, filled]

/-- Whether digits are a numeral of a number, perhaps with zeros in front, and in either case. -/
def IsNumeral (base : Nat) (digits : List Char) (n : Nat) : Prop :=
  ∃ zeros, lower digits = List.replicate zeros '0' ++ Nat.toDigits base n

namespace IsNumeral

variable {base n : Nat} {digits : List Char}

/-- A numeral is read as its number. -/
theorem numeral?_eq (written : IsNumeral base digits n) (large : 1 < base) (bound : base ≤ 16) :
    numeral? base digits = some n := by
  obtain ⟨zeros, same⟩ := written
  rw [← numeral?_lower, same, numeral?_zeros (by omega), numeral?_toDigits large bound]

/-- A numeral has digits. -/
theorem ne_nil (written : IsNumeral base digits n) : digits ≠ [] := by
  rintro rfl
  obtain ⟨zeros, same⟩ := written
  exact Nat.toDigits_ne_nil (List.append_eq_nil_iff.mp same.symm).2

/-- A numeral consists of digits of its base. -/
theorem toLower_mem (written : IsNumeral base digits n) (large : 1 < base) {c : Char}
    (mem : c ∈ digits) : c.toLower ∈ printedDigits base := by
  obtain ⟨zeros, same⟩ := written
  have inside : c.toLower ∈ lower digits := List.mem_map_of_mem mem
  rw [same] at inside
  rcases List.mem_append.mp inside with zero | digit
  · rw [List.eq_of_mem_replicate zero]
    exact List.mem_map_of_mem (List.mem_range.mpr (by omega) : 0 ∈ List.range base)
  · exact mem_toDigits large digit

/-- A character whose lower case is no digit is not in a numeral. -/
theorem not_mem_of_toLower (written : IsNumeral base digits n) (large : 1 < base)
    {marks : List Char} (others : ∀ mark ∈ marks, mark.toLower ∉ printedDigits base) {c : Char}
    (mem : c ∈ digits) : c ∉ marks :=
  fun mark => others c mark (written.toLower_mem large mem)

end IsNumeral

end CrawlFrontier.Text
