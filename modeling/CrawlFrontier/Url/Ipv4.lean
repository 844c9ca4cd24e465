import CrawlFrontier.Text.Ascii

/-!
# IPv4 addresses

A host whose last label is a number is an IPv4 address. The address may be written with one to four
numbers, each decimal, octal after a zero, or hexadecimal after `0x`; the last number fills all the
bytes that are left. It is printed as four decimal numbers.
-/

namespace CrawlFrontier.Url

open CrawlFrontier.Text

/-- An address of four bytes. -/
structure Ipv4 where
  a : UInt8
  b : UInt8
  c : UInt8
  d : UInt8
  deriving DecidableEq, Repr

namespace Ipv4

/-- The address with a value below 2^32. -/
def ofNat (n : Nat) : Ipv4 :=
  ⟨UInt8.ofNat (n / 0x1000000), UInt8.ofNat (n / 0x10000), UInt8.ofNat (n / 0x100),
    UInt8.ofNat n⟩

/-- The decimal digits of a number. -/
def decimal (n : Nat) : List Char := Nat.toDigits 10 n

/-- The printed form of an address. -/
def text (address : Ipv4) : List Char :=
  decimal address.a.toNat ++ '.' :: decimal address.b.toNat ++ '.' :: decimal address.c.toNat ++
    '.' :: decimal address.d.toNat

/-- Reads one number of an address: in base sixteen after `0x`, in base eight after a zero, else in
base ten. Letters are in lower case. -/
def readNumber? : List Char → Option Nat
  | [] => none
  | '0' :: 'x' :: digits => numeral? 16 digits
  | '0' :: digit :: digits => numeral? 8 (digit :: digits)
  | digits => numeral? 10 digits

/-- The labels of a domain name, without the empty one behind a full stop at the end. -/
def labels (domain : List Char) : List (List Char) :=
  let all := domain.splitOn '.'
  if all.getLast? = some [] then all.dropLast else all

/-- Whether a domain name must be an address, because its last label is a number. -/
def endsInNumber (domain : List Char) : Bool :=
  match (labels domain).getLast? with
  | none | some [] => false
  | some last => last.all Char.isDigit || (readNumber? last).isSome

/-- The value of an address from its numbers: all but the last are bytes, and the last fills the
rest. -/
def combine? (numbers : List Nat) : Option Nat :=
  match numbers.reverse with
  | [] => none
  | last :: front =>
    let weight := Nat.pow 256 (4 - front.length)
    if front.length < 4 ∧ last < weight ∧ front.all (· < 256) then
      some (front.foldr (fun byte value => value * 256 + byte) 0 * weight + last)
    else none

/-- Reads an address. -/
def parse? (domain : List Char) : Option Ipv4 := do
  let numbers ← (labels domain).mapM readNumber?
  let value ← combine? numbers
  some (ofNat value)

end Ipv4

end CrawlFrontier.Url
