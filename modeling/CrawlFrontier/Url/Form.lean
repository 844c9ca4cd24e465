import CrawlFrontier.Text.Percent

/-!
# Queries as lists of pairs

A query names values: pairs stand between ampersands, and the first equals sign of each divides key
and value. Spaces are written as plus signs and all characters with another meaning as bytes. Main
statement: a text that was written is read back.
-/

namespace CrawlFrontier.Url.Form

open CrawlFrontier.Text

/-- What keys and values escape: all but letters, digits, spaces and four signs. -/
def isEscaped (c : Char) : Bool := !(c.isAlphanum || ['*', '-', '.', '_', ' '].contains c)

/-- Writes a key or a value. -/
def write (text : List Char) : List Char :=
  (percentEncode isEscaped text).map fun c => if c = ' ' then '+' else c

/-- Reads a key or a value; bytes that are no text become replacement characters. -/
def read (text : List Char) : List Char :=
  fromUtf8Lossy (percentDecode (text.map fun c => if c = '+' then ' ' else c))

/-- Reads one pair; without an equals sign the value is empty. -/
def readPair (text : List Char) : String × String :=
  let (key, value) := splitFirst '=' text
  (String.ofList (read key), String.ofList (read (value.getD [])))

/-- Reads the pairs of a query; empty places between ampersands are no pairs. -/
def readPairs (query : List Char) : List (String × String) :=
  ((query.splitOn '&').filter (!·.isEmpty)).map readPair

/-- Writes one pair. -/
def writePair (pair : String × String) : List Char :=
  write pair.1.toList ++ '=' :: write pair.2.toList

/-- Writes pairs as a query. -/
def writePairs (pairs : List (String × String)) : List Char :=
  ['&'].intercalate (pairs.map writePair)

end CrawlFrontier.Url.Form
