import CrawlFrontier.Toml.Lexeme
import CrawlFrontier.Toml.Value

/-!
# Numbers in configuration files

Integers of sixty-four bits in four bases, and fractions, of which only the form is checked.
-/

namespace CrawlFrontier.Toml

open CrawlFrontier.Text

/-- An integer, if it fits into sixty-four bits. -/
def Value.ofInt? (n : Int) : Option Value :=
  if -0x8000000000000000 ≤ n ∧ n < 0x8000000000000000 then some (.integer n) else none

/-- The value of digits in a base. -/
def digitsValue (base : Nat) (digits : List Char) : Nat := (numeral? base digits).getD 0

/-- The number with a minus in front, if there is one. -/
def signed (negative : Bool) (n : Nat) : Int := if negative then -n else n

/-- Reads a sign, which may be missing, and tells whether it is a minus. -/
def readSign : List Char → Bool × List Char
  | '-' :: rest => (true, rest)
  | '+' :: rest => (false, rest)
  | text => (false, text)

/-- Reads decimal digits without a zero in front of others. -/
def readDecimal (text : List Char) : Option (List Char × List Char) := do
  let (digits, rest) ← readDigits Char.isDigit text
  if 1 < digits.length ∧ digits.head? = some '0' then none else some (digits, rest)

/-- Reads the digits of an integer in a base other than ten. -/
def readBased (base : Nat) (text : List Char) : Option (Value × List Char) := do
  let (digits, rest) ← readDigits (fun c => (hexValue? c).any (· < base)) text
  let value ← Value.ofInt? (digitsValue base digits)
  some (value, rest)

/-- Whether a decimal number, given by its digits and its exponent, is too large for a fraction of
double precision, after rounding. -/
def overflows (digits : List Char) (exponent : Int) : Bool :=
  let significant := digits.dropWhile (· == '0')
  let size := significant.length + exponent
  if significant.isEmpty || size < 300 then false
  else if 320 < size then true
  else
    let value := digitsValue 10 significant
    let limit := Nat.pow 2 1024 - Nat.pow 2 970
    if 0 ≤ exponent then limit ≤ value * Nat.pow 10 exponent.toNat
    else limit * Nat.pow 10 (-exponent).toNat ≤ value

/-- Reads the digits behind a point, which may be missing. -/
def readFraction : List Char → Option (Option (List Char) × List Char)
  | '.' :: rest => (readDigits Char.isDigit rest).map fun (digits, rest) => (some digits, rest)
  | text => some (none, text)

/-- Reads an exponent, which may be missing. -/
def readExponent (text : List Char) : Option (Option Int × List Char) :=
  match text with
  | [] => some (none, [])
  | c :: rest =>
    if c = 'e' ∨ c = 'E' then
      let (negative, rest) := readSign rest
      (readDigits Char.isDigit rest).map fun (digits, rest) =>
        (some (signed negative (digitsValue 10 digits)), rest)
    else some (none, text)

/-- Reads a number in base ten. A fraction that is larger than all others is refused if it is
positive. -/
def readPlainNumber (text : List Char) : Option (Value × List Char) := do
  let (negative, text) := readSign text
  if "inf".toList.isPrefixOf text || "nan".toList.isPrefixOf text then
    some (.fraction, text.drop 3)
  else
    let (whole, rest) ← readDecimal text
    let (behind, rest) ← readFraction rest
    let (exponent, rest) ← readExponent rest
    if behind.isNone && exponent.isNone then
      let value ← Value.ofInt? (signed negative (digitsValue 10 whole))
      some (value, rest)
    else
      let behind := behind.getD []
      if !negative && overflows (whole ++ behind) (exponent.getD 0 - behind.length) then none
      else some (.fraction, rest)

/-- Reads a number in any base. -/
def readNumber : List Char → Option (Value × List Char)
  | '0' :: 'x' :: digits => readBased 16 digits
  | '0' :: 'o' :: digits => readBased 8 digits
  | '0' :: 'b' :: digits => readBased 2 digits
  | text => readPlainNumber text

end CrawlFrontier.Toml
