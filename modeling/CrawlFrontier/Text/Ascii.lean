/-!
# ASCII letters and digits

Case, hexadecimal digits and prefixes without regard to ASCII case. Characters outside ASCII are
left alone by every function here.
-/

namespace CrawlFrontier.Text

/-- The value of a hexadecimal digit of either case. -/
def hexValue? (c : Char) : Option Nat :=
  if c.isDigit then some (c.toNat - 48)
  else if 'a' ≤ c ∧ c ≤ 'f' then some (c.toNat - 87)
  else if 'A' ≤ c ∧ c ≤ 'F' then some (c.toNat - 55)
  else none

/-- The upper-case hexadecimal digit of a value below sixteen. -/
def upperHexDigit (n : Nat) : Char :=
  if n < 10 then Char.ofNat (48 + n) else Char.ofNat (55 + n)

/-- The lower-case hexadecimal digit of a value below sixteen. -/
def lowerHexDigit (n : Nat) : Char :=
  if n < 10 then Char.ofNat (48 + n) else Char.ofNat (87 + n)

/-- Writing a value below sixteen in upper case and reading it gives the value. -/
theorem hexValue?_upperHexDigit {n : Nat} (h : n < 16) : hexValue? (upperHexDigit n) = some n := by
  have all : ∀ m ∈ List.range 16, hexValue? (upperHexDigit m) = some m := by decide
  exact all n (List.mem_range.mpr h)

/-- The text with its ASCII letters in lower case. -/
def lower (text : List Char) : List Char := text.map Char.toLower

/-- Whether the text begins with the given lower-case text, whatever the case of its letters. -/
def startsWithLower (start text : List Char) : Bool :=
  start.isPrefixOf (lower (text.take start.length))

/-- Whether one text stands somewhere inside another. -/
def occursIn (part : List Char) : List Char → Bool
  | [] => part.isEmpty
  | c :: rest => part.isPrefixOf (c :: rest) || occursIn part rest

/-- The value of a run of digits in a base up to sixteen, or nothing if some character is no digit
of that base. The empty text has value zero. -/
def numeral? (base : Nat) (text : List Char) : Option Nat :=
  text.foldlM
    (fun value c =>
      match hexValue? c with
      | some d => if d < base then some (value * base + d) else none
      | none => none)
    0

/-- The text in front of the first separator and the text after it. -/
def splitFirst (separator : Char) (text : List Char) : List Char × Option (List Char) :=
  match text.span (· ≠ separator) with
  | (front, []) => (front, none)
  | (front, _ :: rest) => (front, some rest)

/-- The text in front of the last separator and the text after it, if there is a separator. -/
def splitLast? (separator : Char) (text : List Char) : Option (List Char × List Char) :=
  match text.reverse.span (· ≠ separator) with
  | (_, []) => none
  | (back, _ :: front) => some (front.reverse, back.reverse)

end CrawlFrontier.Text
