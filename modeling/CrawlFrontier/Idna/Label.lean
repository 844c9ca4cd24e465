import CrawlFrontier.Idna.Mapping
import CrawlFrontier.Idna.Punycode
import CrawlFrontier.Unicode.Direction
import CrawlFrontier.Unicode.Joining
import CrawlFrontier.Unicode.Mark
import CrawlFrontier.Unicode.Normal

/-!
# Labels of a domain name

A label in ASCII that begins with `xn--` is the written form of a label with other characters. Both
kinds are checked alike once they are decoded: normal form, characters that the mapping leaves
alone, no mark in front, invisible joiners only where they join, and the rule for labels in names
that run from right to left. Only labels of limited length are written, and only such are read; what
is written may be longer than what is read.

A domain name in any script becomes the ASCII name that is looked up: the text is mapped and put
into normal form, every label is decoded and checked, and labels with other characters are written
in ASCII.
-/

namespace CrawlFrontier.Idna

open CrawlFrontier.Text CrawlFrontier.Unicode

/-- The beginning of a label that is written in ASCII. -/
def asciiMark : List Char := ['x', 'n', '-', '-']

/-- How many characters a label beyond ASCII may have to be written. -/
def writtenLimit : Nat := 1000

/-- How many characters behind the mark of a written label are read. -/
def readLimit : Nat := 2000

/-- Whether an ASCII character has no place in the host of a URL. -/
def isForbidden (c : Char) : Bool :=
  c.toNat ≤ 0x20 || c.toNat == 0x7F ||
    ['%', '#', '/', ':', '<', '>', '?', '@', '[', '\\', ']', '^', '|'].contains c

/-- Whether a text holds ASCII characters only. -/
def isAscii (text : List Char) : Bool := text.all (·.toNat < 0x80)

/-- Whether the nearest character that takes part in joining has one of two types. -/
def joinsWith (a b : Joining) (text : List Char) : Bool :=
  match text.dropWhile (fun c => joining c = .transparent) with
  | [] => false
  | c :: _ => joining c = a || joining c = b

/-- Whether a joiner control is allowed behind `front`, which is in reverse, and before `back`. Both
controls may follow a sign that joins consonants; the one that keeps letters apart may also stand
between letters that would join. -/
def joinerAllowed (c : Char) (front back : List Char) : Bool :=
  match front with
  | [] => false
  | previous :: _ =>
    combiningClass previous = viramaClass ||
      (c == '\u200C' && joinsWith .left .dual front && joinsWith .right .dual back)

/-- Whether all joiner controls of a text are allowed, given in reverse what stands in front. -/
def joinersAllowed (front : List Char) : List Char → Bool
  | [] => true
  | c :: back =>
    (if c == '\u200C' || c == '\u200D' then joinerAllowed c front back else true) &&
      joinersAllowed (c :: front) back

/-- Whether a decoded label is well formed apart from its direction, and not too long to be
written. -/
def isWellFormed (label : List Char) : Bool :=
  label.all (fun c => isFixed c && !isForbidden c) && composed label == label &&
    !(label.head?.any isMark) && joinersAllowed [] label &&
    (isAscii label || label.length ≤ writtenLimit)

/-- Whether a character makes its domain name one that runs from right to left. -/
def runsLeft (c : Char) : Bool :=
  match direction c with
  | .rightToLeft | .arabicLetter | .arabicNumber => true
  | _ => false

/-- The classes that a label from right to left may hold. -/
def allowedRightToLeft : Direction → Bool
  | .leftToRight => false
  | _ => true

/-- The classes that a label from left to right may hold. -/
def allowedLeftToRight : Direction → Bool
  | .rightToLeft | .arabicLetter | .arabicNumber => false
  | _ => true

/-- Whether a label may stand in a domain name that runs from right to left: it begins with a
letter, holds no letter of the other direction, ends with a letter or a number apart from marks, and
does not mix the two kinds of numbers. -/
def hasDirection (label : List Char) : Bool :=
  let classes := label.map direction
  match classes, classes.reverse.find? (· ≠ .nonspacing) with
  | [], _ => true
  | first :: _, last =>
    match first with
    | .rightToLeft | .arabicLetter =>
      classes.all allowedRightToLeft &&
        (last == some .rightToLeft || last == some .arabicLetter || last == some .arabicNumber ||
          last == some .europeanNumber) &&
        !(classes.contains .europeanNumber && classes.contains .arabicNumber)
    | .leftToRight =>
      classes.all allowedLeftToRight && (last == some .leftToRight || last == some .europeanNumber)
    | _ => false

/-- Whether a label has the form of a written one but is too long to be read. -/
def isOverlong (label : List Char) : Bool :=
  asciiMark.isPrefixOf label && asciiMark.length + readLimit < label.length

/-- The label that a mapped label stands for: one with the mark of a written label is decoded, and
must hold something beyond ASCII. -/
def decodeLabel? (label : List Char) : Option (List Char) :=
  if asciiMark.isPrefixOf label then
    if isAscii label && !isOverlong label then do
      let decoded ← Punycode.decode (label.drop asciiMark.length)
      if isAscii decoded then none else some decoded
    else none
  else some label

/-- The written form of a decoded label. One beyond ASCII is written only if it is well formed, so it
has no more characters than the limit. -/
def encodeLabel (label : List Char) : List Char :=
  if isAscii label then label else asciiMark ++ Punycode.encode label

/-- The ASCII form of a domain name, or nothing if the name is not well formed. -/
def toAscii? (domain : List Char) : Option (List Char) := do
  let mapped ← mapText? domain
  let labels ← ((composed mapped).splitOn '.').mapM decodeLabel?
  if labels.all isWellFormed && (!labels.any (·.any runsLeft) || labels.all hasDirection) then
    some (['.'].intercalate (labels.map encodeLabel))
  else none

end CrawlFrontier.Idna
