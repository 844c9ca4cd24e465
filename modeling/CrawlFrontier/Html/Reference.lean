import CrawlFrontier.Html.EntityTable
import CrawlFrontier.Text.Ascii
import CrawlFrontier.Text.Utf8

/-!
# Character references

Behind an ampersand a character may be written by its number or by its name. The longest name that
fits is meant. Some names are understood without the semicolon at their end, but not in the value of
an attribute if what follows looks as if the name went on.
-/

namespace CrawlFrontier.Html

open CrawlFrontier.Text

/-- What a reference stands for, and how many characters it takes behind the ampersand. -/
structure Reference where
  meaning : List Char
  length : Nat
  deriving DecidableEq, Repr

/-- The characters that the numbers from 128 to 159 stand for; zero is written where such a number
stands for itself. -/
def highControls : List Nat :=
  [0x20AC, 0, 0x201A, 0x0192, 0x201E, 0x2026, 0x2020, 0x2021, 0x02C6, 0x2030, 0x0160, 0x2039,
    0x0152, 0, 0x017D, 0, 0, 0x2018, 0x2019, 0x201C, 0x201D, 0x2022, 0x2013, 0x2014, 0x02DC,
    0x2122, 0x0161, 0x203A, 0x0153, 0, 0x017E, 0x0178]

/-- The character that a number stands for. -/
def numbered (n : Nat) : Char :=
  if n = 0 ∨ ¬n.isValidChar then replacement
  else if 0x80 ≤ n ∧ n ≤ 0x9F then
    match highControls[n - 0x80]? with
    | none | some 0 => Char.ofNat n
    | some m => Char.ofNat m
  else Char.ofNat n

/-- Whether a character is a digit of a base. -/
def isDigitOf (base : Nat) (c : Char) : Bool :=
  match hexValue? c with
  | some d => d < base
  | none => false

/-- The reference by a number, given what stands behind `start` characters. -/
def numberReference? (base start : Nat) (text : List Char) : Option Reference :=
  let digits := text.takeWhile (isDigitOf base)
  if digits.isEmpty then none
  else
    let stop := if (text.drop digits.length).head? = some ';' then 1 else 0
    some ⟨[numbered ((numeral? base digits).getD 0)], start + digits.length + stop⟩

/-- The longest front of a text of at most the given length that is a name. -/
def longestName? (text : List Char) : Nat → Option Reference
  | 0 => none
  | length + 1 =>
    let name := text.take (length + 1)
    match entity? name with
    | some meaning => some ⟨meaning, name.length⟩
    | none => longestName? text length

/-- Whether what follows a name that has no semicolon looks as if the name went on. -/
def goesOn (text : List Char) : Bool :=
  match text.head? with
  | some c => c == '=' || c.isAlphanum
  | none => false

/-- The reference by a name. -/
def nameReference? (inValue : Bool) (text : List Char) : Option Reference :=
  let letters := ((text.take longestEntity).takeWhile Char.isAlphanum).length
  match longestName? text (letters + 1) with
  | none => none
  | some reference =>
    let closed := (text.take reference.length).getLast? == some ';'
    if inValue && !closed && goesOn (text.drop reference.length) then none else some reference

/-- The reference that stands behind an ampersand, if there is one. -/
def reference? (inValue : Bool) : List Char → Option Reference
  | '#' :: 'x' :: text | '#' :: 'X' :: text => numberReference? 16 2 text
  | '#' :: text => numberReference? 10 1 text
  | text => nameReference? inValue text

/-- A value with its references resolved, behind so many characters of the last reference. -/
def resolveFrom (taken : Nat) : List Char → List Char
  | [] => []
  | c :: text =>
    match taken with
    | taken + 1 => resolveFrom taken text
    | 0 =>
      if c = '&' then
        match reference? true text with
        | some reference => reference.meaning ++ resolveFrom reference.length text
        | none => c :: resolveFrom 0 text
      else c :: resolveFrom 0 text

/-- The value of an attribute, given how it is written. -/
def resolveValue (text : List Char) : List Char := resolveFrom 0 text

end CrawlFrontier.Html
