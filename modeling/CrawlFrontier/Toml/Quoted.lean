import CrawlFrontier.Toml.Lexeme

/-!
# Texts and keys in configuration files

A text stands in double quotes, in which backslashes begin escapes, or in single quotes, in which
nothing has a meaning; with three quotes it may have several lines. A key is a word or a text of one
line, or several of them with full stops between.
-/

namespace CrawlFrontier.Toml

open CrawlFrontier.Text

/-- The character of a number in hexadecimal digits. -/
def codePoint? (digits : List Char) : Option Char := do
  let n ← numeral? 16 digits
  if n.isValidChar then some (Char.ofNat n) else none

/-- Reads what follows a backslash. -/
def readEscape : List Char → Option (Char × List Char)
  | 'b' :: rest => some ('\x08', rest)
  | 't' :: rest => some ('\t', rest)
  | 'n' :: rest => some ('\n', rest)
  | 'f' :: rest => some ('\x0c', rest)
  | 'r' :: rest => some ('\r', rest)
  | '"' :: rest => some ('"', rest)
  | '\\' :: rest => some ('\\', rest)
  | 'u' :: a :: b :: c :: d :: rest => (codePoint? [a, b, c, d]).map fun char => (char, rest)
  | 'U' :: a :: b :: c :: d :: e :: f :: g :: h :: rest =>
    (codePoint? [a, b, c, d, e, f, g, h]).map fun char => (char, rest)
  | _ => none

/-- Reads a text in double quotes to its end, given in reverse what was read. -/
def readBasic (front : List Char) : List Char → Option (List Char × List Char)
  | [] => none
  | c :: text =>
    if c = '"' then some (front.reverse, text)
    else if c = '\\' then
      match readEscape text with
      | none => none
      | some (c, rest) => whenShorter text rest fun _ => readBasic (c :: front) rest
    else if isPrintable c then readBasic (c :: front) text
    else none
termination_by text => text.length
decreasing_by all_goals simp only [List.length_cons]; omega

/-- Reads a text in single quotes to its end. -/
def readLiteral (text : List Char) : Option (List Char × List Char) :=
  let belongs := fun c => isPrintable c && c != '\''
  (readMark '\'' (text.dropWhile belongs)).map fun rest => (text.takeWhile belongs, rest)

/-- Whether every carriage return of a text is followed by a line feed. -/
def hasWholeLineEnds : List Char → Bool
  | [] => true
  | '\r' :: '\n' :: rest => hasWholeLineEnds rest
  | '\r' :: _ => false
  | _ :: rest => hasWholeLineEnds rest

/-- The rest of a text of several lines behind a backslash at the end of a line: line ends and
spaces are left out up to the next other character. -/
def skipFolded (text : List Char) : Option (List Char) :=
  let belongs := fun c => isSpace c || c == '\n' || c == '\r'
  if (readLineEnd? (skipSpaces text)).isSome && hasWholeLineEnds (text.takeWhile belongs) then
    some (text.dropWhile belongs)
  else none

/-- Reads the three quotes that end a text of several lines. Up to two more in front of them belong
to the text. -/
def readClosing (quote : Char) (text : List Char) : Option (List Char × List Char) :=
  let count := min (text.takeWhile (· == quote)).length 5
  if count < 3 then none else some (List.replicate (count - 3) quote, text.drop count)

/-- Reads a text of several lines to its end, given in reverse what was read. Line ends become line
feeds, and backslashes have a meaning between double quotes. -/
def readLines (quote : Char) (front : List Char) : List Char → Option (List Char × List Char)
  | [] => none
  | c :: text =>
    if c = quote then
      match readClosing quote (c :: text) with
      | some (last, rest) => some (front.reverse ++ last, rest)
      | none => readLines quote (c :: front) text
    else if c = '\\' ∧ quote = '"' then
      match readEscape text with
      | some (c, rest) => whenShorter text rest fun _ => readLines quote (c :: front) rest
      | none =>
        match skipFolded text with
        | some rest => whenShorter text rest fun _ => readLines quote front rest
        | none => none
    else if c = '\r' then
      match readMark '\n' text with
      | some rest => whenShorter text rest fun _ => readLines quote ('\n' :: front) rest
      | none => none
    else if c = '\n' ∨ isPrintable c then readLines quote (c :: front) text
    else none
termination_by text => text.length
decreasing_by all_goals simp only [List.length_cons]; omega

/-- The text behind the line end that may follow the quotes in front of several lines. -/
def skipFirstLineEnd (text : List Char) : List Char := (readLineEnd? text).getD text

/-- Reads a text of any of the four kinds. -/
def readString : List Char → Option (List Char × List Char)
  | '"' :: '"' :: '"' :: rest => readLines '"' [] (skipFirstLineEnd rest)
  | '\'' :: '\'' :: '\'' :: rest => readLines '\'' [] (skipFirstLineEnd rest)
  | '"' :: rest => readBasic [] rest
  | '\'' :: rest => readLiteral rest
  | _ => none

/-- Whether a character may stand in a key without quotes. -/
def isBareKeyChar (c : Char) : Bool := c.isAlphanum || c == '_' || c == '-'

/-- Reads one part of a key. -/
def readKeyPart : List Char → Option (List Char × List Char)
  | '"' :: rest => readBasic [] rest
  | '\'' :: rest => readLiteral rest
  | text =>
    let name := text.takeWhile isBareKeyChar
    if name.isEmpty then none else some (name, text.dropWhile isBareKeyChar)

/-- Reads a key and the spaces around it. -/
def readKey (text : List Char) : Option (List String × List Char) :=
  match readKeyPart (skipSpaces text) with
  | none => none
  | some (name, rest) =>
    match readMark '.' (skipSpaces rest) with
    | some more =>
      whenShorter text more fun _ =>
        (readKey more).map fun (names, rest) => (String.ofList name :: names, rest)
    | none => some ([String.ofList name], skipSpaces rest)
termination_by text.length
decreasing_by assumption

end CrawlFrontier.Toml
