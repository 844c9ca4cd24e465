import CrawlFrontier.Text.Utf8
import CrawlFrontier.Toml.DateTime
import CrawlFrontier.Toml.Number
import CrawlFrontier.Toml.Quoted
import CrawlFrontier.Toml.Value

/-!
# Configuration files in TOML

A file is a list of lines, each with a key and a value, the header of a table, or nothing but a
comment. Values may be nested, but no deeper than a fixed depth. A name that is given twice spoils
the file.
-/

namespace CrawlFrontier.Toml

open CrawlFrontier.Text

/-- How deep arrays and tables in braces may be nested, and how many parts a key may have. -/
def maxDepth : Nat := 79

/-- What takes a value from the front of a text and returns what follows it. -/
abbrev Reader := List Char → Option (Value × List Char)

/-- Reads a value that is neither an array nor a table. -/
def readScalar (text : List Char) : Option (Value × List Char) :=
  if text.head? = some '"' ∨ text.head? = some '\'' then
    (readString text).map fun (content, rest) => (.string (String.ofList content), rest)
  else if "true".toList.isPrefixOf text then some (.boolean true, text.drop 4)
  else if "false".toList.isPrefixOf text then some (.boolean false, text.drop 5)
  else
    match readDateTime text with
    | some rest => some (.dateTime, rest)
    | none => readNumber text

/-- Skips spaces, comments and line ends between the items of an array. -/
def skipBetween (text : List Char) : List Char :=
  let rest := skipComment (skipSpaces text)
  match readLineEnd? rest with
  | some more => if _h : more.length < text.length then skipBetween more else more
  | none => rest
termination_by text.length

/-- Reads the items of an array behind its bracket, given in reverse those that were read. -/
def readItems (readItem : Reader) (front : List Value) (text : List Char) :
    Option (Value × List Char) :=
  match readMark ']' (skipBetween text) with
  | some rest => some (.array front.reverse, rest)
  | none =>
    match readItem (skipBetween text) with
    | none => none
    | some (item, rest) =>
      let rest := skipBetween rest
      match readMark ',' rest with
      | some more => whenShorter text more fun _ => readItems readItem (item :: front) more
      | none => (readMark ']' rest).map fun rest => (.array (item :: front).reverse, rest)
termination_by text.length
decreasing_by assumption

/-- Reads a key and a value with an equals sign between them. -/
def readPair (readItem : Reader) (text : List Char) :
    Option ((List String × Value) × List Char) := do
  let (key, rest) ← readKey text
  let rest ← readMark '=' rest
  let (value, rest) ← readItem (skipSpaces rest)
  if maxDepth < key.length then none else some ((key, value), rest)

/-- Reads the entries of a table in braces, given those that were read. -/
def readEntries (readItem : Reader) (entries : Entries) (text : List Char) :
    Option (Value × List Char) :=
  match readPair readItem text with
  | none => none
  | some ((key, value), rest) =>
    match entries.insert key value with
    | none => none
    | some entries =>
      let rest := skipSpaces rest
      match readMark ',' rest with
      | some more => whenShorter text more fun _ => readEntries readItem entries more
      | none => (readMark '\x7d' rest).map fun rest => (.table .braces entries, rest)
termination_by text.length
decreasing_by assumption

/-- Reads a table in braces behind its brace. -/
def readBraces (readItem : Reader) (text : List Char) : Option (Value × List Char) :=
  match readMark '\x7d' (skipSpaces text) with
  | some rest => some (.table .braces [], rest)
  | none => readEntries readItem [] text

/-- Reads a value of which the parts may be nested to the given depth. -/
def readValue : Nat → List Char → Option (Value × List Char)
  | 0, text => readScalar text
  | depth + 1, text =>
    match readMark '[' text with
    | some rest => readItems (readValue depth) [] rest
    | none =>
      match readMark '\x7b' text with
      | some rest => readBraces (readValue depth) rest
      | none => readScalar text

/-- What was read of a file: all entries, and the names of the table that lines add to. -/
structure Progress where
  entries : Entries
  table : List String

/-- Reads the header of a table, or of one of several tables. -/
def readHeader (progress : Progress) (text : List Char) : Option (Progress × List Char) := do
  let several := ['[', '['].isPrefixOf text
  let (key, rest) ← readKey (text.drop (if several then 2 else 1))
  let rest ← readMark ']' rest
  let rest ← if several then readMark ']' rest else some rest
  let name ← key.getLast?
  let change := if several then Entries.openTables name else Entries.openTable name
  let entries ← Entries.updateHeaders change key.dropLast progress.entries
  if maxDepth < key.length then none else some (⟨entries, key⟩, rest)

/-- Reads what stands on a line in front of a comment. -/
def readLine (progress : Progress) (text : List Char) : Option (Progress × List Char) :=
  match text with
  | [] => some (progress, [])
  | c :: _ =>
    if c = '[' then readHeader progress text
    else if c = '#' ∨ c = '\n' ∨ c = '\r' then some (progress, text)
    else do
      let ((key, value), rest) ← readPair (readValue maxDepth) text
      let add := fun entries : Entries => entries.insert key value
      let entries ← Entries.updateHeaders add progress.table progress.entries
      some ({ progress with entries }, rest)

/-- Reads the lines of a file. -/
def readDocument (progress : Progress) (text : List Char) : Option Entries :=
  match readLine progress (skipSpaces text) with
  | none => none
  | some (progress, rest) =>
    let rest := skipComment (skipSpaces rest)
    match readLineEnd? rest with
    | some more => whenShorter text more fun _ => readDocument progress more
    | none => if rest.isEmpty then some progress.entries else none
termination_by text.length
decreasing_by assumption

/-- Reads a file as a table, or as nothing if it is not well formed. -/
def parse? (text : String) : Option Value :=
  (readDocument ⟨[], []⟩ (dropByteOrderMark text.toList)).map fun entries => .table .header entries

end CrawlFrontier.Toml
