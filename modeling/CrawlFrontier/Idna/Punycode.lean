import CrawlFrontier.Text.Ascii

/-!
# Labels in ASCII letters

A label with characters beyond ASCII is written as its ASCII characters, a hyphen, and numbers that
say which other characters are put in where. Two layers do this. `Insertion` takes the other
characters out and puts them in again, in ascending order; the differences between neighbours are
numbers. `writeNumber` and `readNumber` spell a number with digits whose limits follow a bias that
adapts to the numbers written so far.
-/

namespace CrawlFrontier.Idna

open CrawlFrontier.Text

namespace Punycode

/-- The number of digits: the letters and after them the decimal digits. -/
def base : Nat := 36

/-- The bias in front of the first number. -/
def initialBias : Nat := 72

/-- The smallest code point that is put in. -/
def firstExtended : Nat := 128

/-- The digit of a value below thirty-six. -/
def digit (n : Nat) : Char := if n < 26 then Char.ofNat (97 + n) else Char.ofNat (22 + n)

/-- The value of a digit, letters being lower case. -/
def digitValue? (c : Char) : Option Nat :=
  if 'a' ≤ c ∧ c ≤ 'z' then some (c.toNat - 97)
  else if c.isDigit then some (c.toNat - 22)
  else none

/-- Writing a value below thirty-six and reading it gives the value. -/
theorem digitValue?_digit {n : Nat} (h : n < 36) : digitValue? (digit n) = some n := by
  have all : ∀ m ∈ List.range 36, digitValue? (digit m) = some m := by decide
  exact all n (List.mem_range.mpr h)

/-- The digits below this value end a number, at a place of the given weight. -/
def threshold (place bias : Nat) : Nat :=
  if place ≤ bias + 1 then 1 else if place ≥ bias + 26 then 26 else place - bias

/-- A threshold is one of the digit values from one on. -/
theorem threshold_bounds (place bias : Nat) :
    1 ≤ threshold place bias ∧ threshold place bias ≤ 26 := by
  unfold threshold
  split
  · omega
  · split <;> omega

/-- Halves a difference until it is small and counts the rounds. -/
def adaptRounds (delta : Nat) : Nat × Nat :=
  if _large : 455 < delta then
    let (rounds, rest) := adaptRounds (delta / 35)
    (rounds + 1, rest)
  else (0, delta)
termination_by delta
decreasing_by omega

/-- The bias after a number was written, given how many characters the text has then. -/
def adapt (delta count : Nat) (first : Bool) : Nat :=
  let damped := if first then delta / 700 else delta / 2
  let (rounds, rest) := adaptRounds (damped + damped / count)
  base * rounds + base * rest / (rest + 38)

/-- Spells a number from its lowest digit on. -/
def writeNumber (place bias n : Nat) : List Char :=
  let t := threshold place bias
  if n < t then [digit n]
  else digit (t + (n - t) % (base - t)) :: writeNumber (place + base) bias ((n - t) / (base - t))
termination_by n
decreasing_by
  have bounds := threshold_bounds place bias
  exact Nat.lt_of_le_of_lt (Nat.div_le_self _ _) (by omega)

/-- Reads a number from the front of a text. -/
def readNumber (place bias : Nat) : List Char → Option (Nat × List Char)
  | [] => none
  | c :: text => do
    let d ← digitValue? c
    let t := threshold place bias
    if d < t then some (d, text)
    else
      let (higher, rest) ← readNumber (place + base) bias text
      some (d + (base - t) * higher, rest)

/-- Reading a number uses up at least one character. -/
theorem length_readNumber {place bias : Nat} {text : List Char} {n : Nat} {rest : List Char}
    (h : readNumber place bias text = some (n, rest)) : rest.length < text.length := by
  induction text generalizing place n rest with
  | nil => simp [readNumber] at h
  | cons c text ih =>
    simp only [readNumber, Option.bind_eq_bind, Option.bind_eq_some_iff] at h
    obtain ⟨d, _, h⟩ := h
    split at h
    · simp only [Option.some.injEq, Prod.mk.injEq] at h
      simp [← h.2]
    · simp only [Option.bind_eq_some_iff] at h
      obtain ⟨⟨m, r⟩, hr, h⟩ := h
      simp only [Option.some.injEq, Prod.mk.injEq] at h
      have shorter := ih hr
      simp only [List.length_cons, ← h.2]
      omega

/-- Spells numbers, of which the first counts as such if no character stands in front of it. The
text has `count` characters before the first number is applied. -/
def writeNumbers (bias count : Nat) (first : Bool) : List Nat → List Char
  | [] => []
  | n :: numbers =>
    writeNumber base bias n ++ writeNumbers (adapt n (count + 1) first) (count + 1) false numbers

/-- Reads numbers to the end of a text. -/
def readNumbers (bias count : Nat) (first : Bool) (text : List Char) : Option (List Nat) :=
  if text.isEmpty then some []
  else
    match h : readNumber base bias text with
    | none => none
    | some (n, rest) =>
      (readNumbers (adapt n (count + 1) first) (count + 1) false rest).map (n :: ·)
termination_by text.length
decreasing_by exact length_readNumber h

/-- A character that is put into a text and the place where it goes. -/
structure Insertion where
  char : Char
  place : Nat

/-- The characters beyond ASCII of a text, each with the number of characters in front of it that
are not greater, in ascending order. -/
def insertions (text : List Char) : List Insertion :=
  let extended := text.zipIdx.filter fun (c, _) => firstExtended ≤ c.toNat
  (extended.map fun (c, i) => ⟨c, (text.take i).countP (· ≤ c)⟩).mergeSort
    fun a b => a.char ≤ b.char

/-- The differences between neighbouring insertions, counted in all the steps that the reader goes
through between them. The text has `count` characters, and the next step would put the code point
`point` at the place `place`. -/
def differences (count point place : Nat) : List Insertion → List Nat
  | [] => []
  | next :: more =>
    ((next.char.toNat - point) * (count + 1) + next.place - place) ::
      differences (count + 1) next.char.toNat (next.place + 1) more

/-- Puts characters into a text as the differences say; nothing where a code point is none. -/
def applyDifferences (text : List Char) (point place : Nat) : List Nat → Option (List Char)
  | [] => some text
  | delta :: more =>
    let steps := place + delta
    let next := point + steps / (text.length + 1)
    let at_ := steps % (text.length + 1)
    if next.isValidChar then
      applyDifferences (text.insertIdx at_ (Char.ofNat next)) next (at_ + 1) more
    else none

/-- Writes a text in ASCII letters, digits and hyphens, as far as its ASCII characters are such. -/
def encode (text : List Char) : List Char :=
  let basic := text.filter (·.toNat < firstExtended)
  let numbers := differences basic.length firstExtended 0 (insertions text)
  let tail := writeNumbers initialBias basic.length true numbers
  if basic.isEmpty then tail else basic ++ '-' :: tail

/-- Reads a text that was written in ASCII. -/
def decode (text : List Char) : Option (List Char) := do
  let (basic, tail) :=
    match splitLast? '-' text with
    | some ([], _) | none => ([], text)
    | some split => split
  let numbers ← readNumbers initialBias basic.length true tail
  applyDifferences basic firstExtended 0 numbers

end Punycode

end CrawlFrontier.Idna
