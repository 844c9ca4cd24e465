import CrawlFrontier.Unicode.CombiningClass
import CrawlFrontier.Unicode.Decomposition

/-!
# Composed normal form

Characters are taken apart, marks are put in the order of their classes, and what can be put
together is put together. ASCII text is in normal form already, so it is returned as it is.
-/

namespace CrawlFrontier.Unicode

/-- Takes a Korean syllable apart into its two or three letters. -/
def decomposeSyllable (index : Nat) : List Char :=
  let lead := Char.ofNat (0x1100 + index / 588)
  let vowel := Char.ofNat (0x1161 + index % 588 / 28)
  if index % 28 = 0 then [lead, vowel] else [lead, vowel, Char.ofNat (0x11A7 + index % 28)]

/-- What a character stands for, taken apart as far as possible. -/
def decompose (c : Char) : List Char :=
  if 0xAC00 ≤ c.toNat ∧ c.toNat ≤ 0xD7A3 then decomposeSyllable (c.toNat - 0xAC00)
  else
    match decompositions.value? c.toNat with
    | some points => points.map Char.ofNat
    | none => [c]

/-- Puts marks in front of those of higher classes, up to the nearest character of class zero. -/
def insertMark (c : Char) (rank : Nat) : List (Char × Nat) → List (Char × Nat)
  | [] => [(c, rank)]
  | (d, other) :: rest =>
    if rank < other then (d, other) :: insertMark c rank rest else (c, rank) :: (d, other) :: rest

/-- Orders marks by class, given the text in front in reverse. Marks of one class keep their
order. -/
def orderMarks (text : List Char) : List (Char × Nat) :=
  (text.foldl
    (fun front c =>
      let rank := combiningClass c
      if rank = 0 then (c, 0) :: front else insertMark c rank front)
    []).reverse

/-- The character that takes the place of a pair. -/
def composePair? (a b : Char) : Option Char :=
  let m := a.toNat
  let n := b.toNat
  if 0x1100 ≤ m ∧ m ≤ 0x1112 ∧ 0x1161 ≤ n ∧ n ≤ 0x1175 then
    some (Char.ofNat (0xAC00 + ((m - 0x1100) * 21 + (n - 0x1161)) * 28))
  else if 0xAC00 ≤ m ∧ m ≤ 0xD7A3 ∧ (m - 0xAC00) % 28 = 0 ∧ 0x11A8 ≤ n ∧ n ≤ 0x11C2 then
    some (Char.ofNat (m + (n - 0x11A7)))
  else do
    let followers ← compositions.value? m
    let whole ← followers.lookup n
    some (Char.ofNat whole)

/-- Puts characters together. The starter is the last character of class zero, `between` holds in
reverse what follows it and was not taken up, and `rank` is the class of the last of these. -/
def composeFrom (starter : Char) (between : List Char) (rank : Nat) :
    List (Char × Nat) → List Char
  | [] => starter :: between.reverse
  | (c, k) :: rest =>
    let free := between.isEmpty ∨ (rank < k ∧ rank ≠ 0)
    match if free then composePair? starter c else none with
    | some whole => composeFrom whole between rank rest
    | none =>
      if k = 0 then (starter :: between.reverse) ++ composeFrom c [] 0 rest
      else composeFrom starter (c :: between) k rest

/-- Puts characters together; marks at the beginning have nothing to join. -/
def composeAll : List (Char × Nat) → List Char
  | [] => []
  | (c, k) :: rest => if k = 0 then composeFrom c [] 0 rest else c :: composeAll rest

/-- The composed normal form of a text. -/
def composed (text : List Char) : List Char :=
  if text.all (·.toNat < 0x80) then text
  else composeAll (orderMarks (text.flatMap decompose))

/-- ASCII text is in composed normal form. -/
theorem composed_of_ascii {text : List Char} (h : text.all (·.toNat < 0x80) = true) :
    composed text = text := by
  simp [composed, h]

end CrawlFrontier.Unicode
