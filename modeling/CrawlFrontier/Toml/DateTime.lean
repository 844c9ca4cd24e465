import CrawlFrontier.Toml.Lexeme

/-!
# Dates and times in configuration files

A date, a time of day, or both, and with both an offset. Only the form is checked, and that the
numbers are those of a day.
-/

namespace CrawlFrontier.Toml

open CrawlFrontier.Text

/-- Reads a number of exactly so many digits between two bounds. -/
def readBounded (count low high : Nat) (text : List Char) : Option (Nat × List Char) := do
  let digits := text.take count
  let n ← numeral? 10 digits
  if digits.length = count ∧ low ≤ n ∧ n ≤ high then some (n, text.drop count) else none

/-- The number of days of a month. -/
def daysOf (year month : Nat) : Nat :=
  if month = 2 then
    if year % 4 = 0 ∧ (year % 100 ≠ 0 ∨ year % 400 = 0) then 29 else 28
  else if month = 4 ∨ month = 6 ∨ month = 9 ∨ month = 11 then 30
  else 31

/-- The text behind a date. -/
def readDate (text : List Char) : Option (List Char) := do
  let (year, text) ← readBounded 4 0 9999 text
  let text ← readMark '-' text
  let (month, text) ← readBounded 2 1 12 text
  let text ← readMark '-' text
  let (_, text) ← readBounded 2 1 (daysOf year month) text
  some text

/-- The text behind the digits of a part of a second, which may be missing. -/
def readSecondPart : List Char → Option (List Char)
  | '.' :: rest =>
    if rest.head?.any Char.isDigit then some (rest.dropWhile Char.isDigit) else none
  | text => some text

/-- The text behind a time of day. A minute may have a second more than sixty. -/
def readTime (text : List Char) : Option (List Char) := do
  let (_, text) ← readBounded 2 0 23 text
  let text ← readMark ':' text
  let (_, text) ← readBounded 2 0 59 text
  let text ← readMark ':' text
  let (_, text) ← readBounded 2 0 60 text
  readSecondPart text

/-- The text behind an offset, which may be missing. -/
def readOffset (text : List Char) : Option (List Char) :=
  match text with
  | [] => some []
  | c :: rest =>
    if c = 'Z' ∨ c = 'z' then some rest
    else if c = '+' ∨ c = '-' then do
      let (_, rest) ← readBounded 2 0 23 rest
      let rest ← readMark ':' rest
      let (_, rest) ← readBounded 2 0 59 rest
      some rest
    else some text

/-- The text behind the time that may follow a date. -/
def readDayTime (text : List Char) : Option (List Char) :=
  match text with
  | [] => some []
  | c :: time =>
    if c = 'T' ∨ c = 't' ∨ (c = ' ' ∧ time.head?.any Char.isDigit) then readTime time >>= readOffset
    else some text

/-- The text behind a date, a time of day, or both. -/
def readDateTime (text : List Char) : Option (List Char) :=
  match readDate text with
  | some rest => readDayTime rest
  | none => readTime text

end CrawlFrontier.Toml
