import CrawlFrontier.Text.Ascii

/-!
# Spaces, comments and line ends in configuration files

Each reader takes its part from the front of a text and returns what follows it, or nothing if the
text does not begin with such a part.
-/

namespace CrawlFrontier.Toml

open CrawlFrontier.Text

/-- Whether a character separates the parts of a line. -/
def isSpace (c : Char) : Bool := c == ' ' || c == '\t'

/-- The text without spaces in front. -/
def skipSpaces (text : List Char) : List Char := text.dropWhile isSpace

/-- Whether a character may stand in comments and in texts of one line. -/
def isPrintable (c : Char) : Bool := c == '\t' || (0x20 ≤ c.toNat && c.toNat != 0x7F)

/-- The text behind a line end, if it begins with one. -/
def readLineEnd? : List Char → Option (List Char)
  | '\n' :: rest => some rest
  | '\r' :: '\n' :: rest => some rest
  | _ => none

/-- The text without a comment in front. -/
def skipComment : List Char → List Char
  | '#' :: rest => rest.dropWhile isPrintable
  | text => text

/-- The text behind an expected character. -/
def readMark (expected : Char) : List Char → Option (List Char)
  | c :: rest => if c = expected then some rest else none
  | [] => none

/-- Goes on with what is left if it is shorter than the text, and gives up if not. -/
def whenShorter {α : Type} (text rest : List Char) (next : rest.length < text.length → Option α) :
    Option α :=
  if h : rest.length < text.length then next h else none

/-- Reads digits, between which single underscores may stand. -/
def readDigits (isDigit : Char → Bool) (text : List Char) : Option (List Char × List Char) :=
  let belongs := fun c => isDigit c || c == '_'
  let run := text.takeWhile belongs
  if (run.splitOn '_').all (!·.isEmpty) then some (run.filter (· != '_'), text.dropWhile belongs)
  else none

end CrawlFrontier.Toml
