/-!
# White space, fields and lines

White space is the Unicode property White_Space, all twenty-five characters of it. Lines end with a
line feed, in front of which one carriage return belongs to the line end.
-/

namespace CrawlFrontier.Text

/-- Whether the character has the Unicode property White_Space. -/
def isBlank (c : Char) : Bool :=
  let n := c.toNat
  (0x09 ≤ n && n ≤ 0x0D) || n == 0x20 || n == 0x85 || n == 0xA0 || n == 0x1680 ||
    (0x2000 ≤ n && n ≤ 0x200A) || n == 0x2028 || n == 0x2029 || n == 0x202F || n == 0x205F ||
    n == 0x3000

/-- The text without the characters at its end that satisfy the predicate. -/
def dropEndWhile (p : Char → Bool) (text : List Char) : List Char :=
  (text.reverse.dropWhile p).reverse

/-- The text without the characters at both ends that satisfy the predicate. -/
def dropBothWhile (p : Char → Bool) (text : List Char) : List Char :=
  dropEndWhile p (text.dropWhile p)

/-- The text without white space at its ends. -/
def trim (text : List Char) : List Char := dropBothWhile isBlank text

/-- The maximal runs of characters other than white space. -/
def fields (text : List Char) : List (List Char) :=
  (text.splitOnP isBlank).filter (fun field => !field.isEmpty)

/-- The line without one carriage return at its end. -/
def dropReturn (line : List Char) : List Char :=
  match line.reverse with
  | '\r' :: front => front.reverse
  | _ => line

/-- The lines of a text: a line feed ends a line, and what follows the last one is a line of its
own if it is not empty. -/
def lines (text : List Char) : List (List Char) :=
  let pieces := text.splitOn '\n'
  let ended := pieces.dropLast.map dropReturn
  match pieces.getLast? with
  | some (c :: rest) => ended ++ [c :: rest]
  | _ => ended

end CrawlFrontier.Text
