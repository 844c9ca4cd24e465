import CrawlFrontier.Url.Ipv4

/-!
# IPv6 addresses

Eight pieces of sixteen bits. Two colons in a row stand for one or more pieces of zero, and the last
two pieces may be written like an IPv4 address in plain decimal numbers. An address is printed in
lower case with its longest run of at least two zeros left out.
-/

namespace CrawlFrontier.Url

open CrawlFrontier.Text

/-- An address of eight pieces. -/
structure Ipv6 where
  pieces : List UInt16
  length_eq : pieces.length = 8
  deriving DecidableEq, Repr

namespace Ipv6

/-- Reads one piece of one to four hexadecimal digits. -/
def readPiece? (digits : List Char) : Option UInt16 :=
  if digits.isEmpty || 4 < digits.length then none
  else (numeral? 16 digits).map UInt16.ofNat

/-- Reads a byte in decimal without a zero in front. -/
def readByte? (digits : List Char) : Option Nat :=
  if digits.isEmpty || (1 < digits.length && digits.head? == some '0') then none
  else do
    let n ← numeral? 10 digits
    if n < 256 then some n else none

/-- Reads two pieces that are written as four bytes with full stops between them. -/
def readDotted? (text : List Char) : Option (List UInt16) := do
  match ← (text.splitOn '.').mapM readByte? with
  | [a, b, c, d] => some [UInt16.ofNat (a * 256 + b), UInt16.ofNat (c * 256 + d)]
  | _ => none

/-- Reads pieces with colons between them; the last may be dotted if the address ends there. -/
def readPieces? (atEnd : Bool) : List (List Char) → Option (List UInt16)
  | [] => some []
  | [last] => if atEnd && last.contains '.' then readDotted? last else (readPiece? last).map ([·])
  | piece :: more => do
    let first ← readPiece? piece
    let rest ← readPieces? atEnd more
    some (first :: rest)

/-- Reads a side of the gap, which may be empty. -/
def readSide? (atEnd : Bool) (text : List Char) : Option (List UInt16) :=
  if text.isEmpty then some [] else readPieces? atEnd (text.splitOn ':')

/-- The texts in front of the first two colons in a row and behind them. -/
def splitGap? : List Char → Option (List Char × List Char)
  | [] => none
  | ':' :: ':' :: rest => some ([], rest)
  | c :: rest => (splitGap? rest).map fun (front, back) => (c :: front, back)

/-- The address with these pieces, if they are eight. -/
def ofPieces? (pieces : List UInt16) : Option Ipv6 :=
  if h : pieces.length = 8 then some ⟨pieces, h⟩ else none

/-- Reads an address. -/
def parse? (text : List Char) : Option Ipv6 := do
  match splitGap? text with
  | none => ofPieces? (← readPieces? true (text.splitOn ':'))
  | some (front, back) =>
    let left ← readSide? false front
    let right ← readSide? true back
    if left.length + right.length < 8 then
      ofPieces? (left ++ List.replicate (8 - left.length - right.length) 0 ++ right)
    else none

/-- The hexadecimal digits of a piece. -/
def pieceText (piece : UInt16) : List Char := Nat.toDigits 16 piece.toNat

/-- The number of zeros at the beginning. -/
def zeroRun (pieces : List UInt16) : Nat := (pieces.takeWhile (· == 0)).length

/-- The place and the length of the first longest run of zeros. -/
def longestZeros : List UInt16 → Nat × Nat
  | [] => (0, 0)
  | piece :: rest =>
    let (place, length) := longestZeros rest
    let here := zeroRun (piece :: rest)
    if length ≤ here then (0, here) else (place + 1, length)

/-- Pieces with colons between them. -/
def joinPieces (pieces : List UInt16) : List Char := [':'].intercalate (pieces.map pieceText)

/-- The printed form of an address. -/
def text (address : Ipv6) : List Char :=
  let (place, length) := longestZeros address.pieces
  if length < 2 then joinPieces address.pieces
  else
    joinPieces (address.pieces.take place) ++ ':' :: ':' ::
      joinPieces (address.pieces.drop (place + length))

end Ipv6

end CrawlFrontier.Url
