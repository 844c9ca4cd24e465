import CrawlFrontier.Idna.MappingTable
import CrawlFrontier.Text.Ascii

/-!
# Mapping the characters of a domain name

Before a domain name is taken apart into labels, letters become lower case, characters that look
different without meaning something else become one, and invisible ones vanish. A character that has
no place in a domain name is refused.
-/

namespace CrawlFrontier.Idna

open CrawlFrontier.Text CrawlFrontier.Unicode

/-- Whether a character beyond ASCII stands for itself. -/
def isKept (c : Char) : Bool := kept.contains c.toNat

/-- What a character beyond ASCII that does not stand for itself becomes, if it is allowed. -/
def replacement? (c : Char) : Option (List Char) :=
  let n := c.toNat
  match spelled.value? n with
  | some points => some (points.map Char.ofNat)
  | none =>
    match shifted.find? n with
    | some span => some [Char.ofNat (span.value + (n - span.first))]
    | none =>
      match alternating.find? n with
      | some span => some [if (n - span.first) % 2 = 0 then Char.ofNat (n + 1) else c]
      | none => if dropped.contains n then some [] else none

/-- What a character becomes, or nothing if it is refused. -/
def mapChar? (c : Char) : Option (List Char) :=
  if c.toNat < 0x80 then some [c.toLower]
  else if isKept c then some [c]
  else replacement? c

/-- What a text becomes, or nothing if a character of it is refused. -/
def mapText? (text : List Char) : Option (List Char) := (text.mapM mapChar?).map List.flatten

/-- Whether the mapping leaves a character as it is. -/
def isFixed (c : Char) : Bool := mapChar? c == some [c]

end CrawlFrontier.Idna
