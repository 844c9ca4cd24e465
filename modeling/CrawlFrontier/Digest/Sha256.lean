import CrawlFrontier.Text.Ascii

/-!
# SHA-256

The digest of thirty-two bytes by which the text of a configuration is told from any other. The
message is filled up to blocks of sixteen words, and each block changes a state of eight words in
sixty-four rounds.
-/

namespace CrawlFrontier.Sha256

open CrawlFrontier.Text

/-- The eight words that the blocks of a message change. -/
structure State where
  a : UInt32
  b : UInt32
  c : UInt32
  d : UInt32
  e : UInt32
  f : UInt32
  g : UInt32
  h : UInt32
  deriving DecidableEq, Repr

/-- The state in front of the first block. -/
def initial : State :=
  ⟨0x6a09e667, 0xbb67ae85, 0x3c6ef372, 0xa54ff53a, 0x510e527f, 0x9b05688c, 0x1f83d9ab, 0x5be0cd19⟩

/-- The constants of the rounds. -/
def constants : List UInt32 :=
  [0x428a2f98, 0x71374491, 0xb5c0fbcf, 0xe9b5dba5, 0x3956c25b, 0x59f111f1, 0x923f82a4, 0xab1c5ed5,
    0xd807aa98, 0x12835b01, 0x243185be, 0x550c7dc3, 0x72be5d74, 0x80deb1fe, 0x9bdc06a7, 0xc19bf174,
    0xe49b69c1, 0xefbe4786, 0x0fc19dc6, 0x240ca1cc, 0x2de92c6f, 0x4a7484aa, 0x5cb0a9dc, 0x76f988da,
    0x983e5152, 0xa831c66d, 0xb00327c8, 0xbf597fc7, 0xc6e00bf3, 0xd5a79147, 0x06ca6351, 0x14292967,
    0x27b70a85, 0x2e1b2138, 0x4d2c6dfc, 0x53380d13, 0x650a7354, 0x766a0abb, 0x81c2c92e, 0x92722c85,
    0xa2bfe8a1, 0xa81a664b, 0xc24b8b70, 0xc76c51a3, 0xd192e819, 0xd6990624, 0xf40e3585, 0x106aa070,
    0x19a4c116, 0x1e376c08, 0x2748774c, 0x34b0bcb5, 0x391c0cb3, 0x4ed8aa4a, 0x5b9cca4f, 0x682e6ff3,
    0x748f82ee, 0x78a5636f, 0x84c87814, 0x8cc70208, 0x90befffa, 0xa4506ceb, 0xbef9a3f7, 0xc67178f2]

/-- Turns the bits of a word to the right. -/
def rotate (x n : UInt32) : UInt32 := (x >>> n) ||| (x <<< (32 - n))

/-- The bytes of a number, the highest first. -/
def bigEndian (count n : Nat) : List UInt8 :=
  (List.range count).reverse.map fun i => UInt8.ofNat (n / Nat.pow 256 i)

/-- A message filled up to whole blocks: a mark, zeros, and the number of its bits. -/
def pad (message : List UInt8) : List UInt8 :=
  message ++ 0x80 :: List.replicate ((119 - message.length % 64) % 64) 0 ++
    bigEndian 8 (message.length * 8)

/-- The words of a list of bytes. -/
def words : List UInt8 → List UInt32
  | a :: b :: c :: d :: rest =>
    UInt32.ofNat (((a.toNat * 256 + b.toNat) * 256 + c.toNat) * 256 + d.toNat) :: words rest
  | _ => []

/-- Adds words to those of a block, the newest first, until every round has one. -/
def extend : Nat → List UInt32 → List UInt32
  | 0, newest => newest
  | count + 1, newest =>
    let at_ (i : Nat) : UInt32 := newest.getD i 0
    let x := at_ 14
    let y := at_ 1
    let s := rotate x 7 ^^^ rotate x 18 ^^^ (x >>> 3)
    let t := rotate y 17 ^^^ rotate y 19 ^^^ (y >>> 10)
    extend count ((at_ 15 + s + at_ 6 + t) :: newest)

/-- One round, given the sum of its constant and its word. -/
def round (s : State) (input : UInt32) : State :=
  let s1 := rotate s.e 6 ^^^ rotate s.e 11 ^^^ rotate s.e 25
  let choice := (s.e &&& s.f) ^^^ ((~~~ s.e) &&& s.g)
  let t1 := s.h + s1 + choice + input
  let s0 := rotate s.a 2 ^^^ rotate s.a 13 ^^^ rotate s.a 22
  let majority := (s.a &&& s.b) ^^^ (s.a &&& s.c) ^^^ (s.b &&& s.c)
  ⟨t1 + s0 + majority, s.a, s.b, s.c, s.d + t1, s.e, s.f, s.g⟩

/-- What a block makes of a state. -/
def compress (s : State) (block : List UInt32) : State :=
  let inputs := List.zipWith (· + ·) constants (extend 48 block.reverse).reverse
  let t := inputs.foldl round s
  ⟨s.a + t.a, s.b + t.b, s.c + t.c, s.d + t.d, s.e + t.e, s.f + t.f, s.g + t.g, s.h + t.h⟩

/-- What all blocks of sixteen words make of a state. -/
def compressAll (s : State) (input : List UInt32) : State :=
  if input.length < 16 then s else compressAll (compress s (input.take 16)) (input.drop 16)
termination_by input.length
decreasing_by simp only [List.length_drop]; omega

/-- The hexadecimal digits of a word. -/
def wordText (word : UInt32) : List Char :=
  (bigEndian 4 word.toNat).flatMap fun byte =>
    [lowerHexDigit (byte.toNat / 16), lowerHexDigit (byte.toNat % 16)]

/-- The digest of a message in hexadecimal digits. -/
def digest (message : List UInt8) : String :=
  let s := compressAll initial (words (pad message))
  String.ofList ([s.a, s.b, s.c, s.d, s.e, s.f, s.g, s.h].flatMap wordText)

end CrawlFrontier.Sha256
