import CrawlFrontier.Frontier.Notice
import CrawlFrontier.Text.Blank
import CrawlFrontier.Text.Utf8

/-!
# Lists of candidates

A recorded crawl is a text with one URL a line and behind it, if it is known, the tag of its kind.
Blank lines and lines that begin with a number sign say nothing. The first line that is malformed
ends the reading; what was noticed in front of it is reported all the same.
-/

namespace CrawlFrontier

open CrawlFrontier.Text

/-- A URL that was discovered, and the number of its line. -/
structure Candidate where
  url : String
  kind : DocumentKind
  line : Nat
  deriving DecidableEq, Repr

/-- Why a text is no list of candidates. -/
inductive CandidateError where
  | unreadable (cause : ReadError)
  | invalidLine (line : Nat) (cause : String)
  deriving DecidableEq, Repr

/-- The wording of an error. -/
def CandidateError.message : CandidateError → String
  | .unreadable cause => "IO error: " ++ cause.message
  | .invalidLine line cause => "Invalid input on line " ++ toString line ++ ": " ++ cause

namespace Candidate

/-- What a line says: its candidate and, if its tag is not known, a notice. -/
structure Entry where
  candidate : Candidate
  notices : List Notice
  deriving DecidableEq, Repr

/-- The candidate of a line with a tag. -/
def Entry.ofTag (line : Nat) (url tag : List Char) : Entry :=
  match DocumentKind.ofTag? (String.ofList tag) with
  | some kind => ⟨⟨String.ofList url, kind, line⟩, []⟩
  | none =>
    ⟨⟨String.ofList url, .unclassified, line⟩, [.unknownTag line (String.ofList tag)]⟩

/-- Whether a line without white space at its ends says nothing. -/
def isSilent (text : List Char) : Bool := text.isEmpty || text.head? == some '#'

/-- Reads a line of the given number; a line that says nothing has no entry. -/
def readLine (line : Nat) (text : List Char) : Except CandidateError (Option Entry) :=
  if isSilent (trim text) then .ok none
  else
    match fields text with
    | [url] => .ok (some ⟨⟨String.ofList url, .unclassified, line⟩, []⟩)
    | [url, tag] => .ok (some (Entry.ofTag line url tag))
    | all =>
      .error (.invalidLine line
        ("expected '<url> [tag]', got " ++ toString all.length ++ " fields"))

/-- The candidates of a list or why it is none, and the notices on the tags that were read. -/
@[ext]
structure Reading where
  result : Except CandidateError (List Candidate)
  notices : List Notice

/-- What was read with one more entry in front of it. -/
def Reading.add (entry : Option Entry) (reading : Reading) : Reading where
  result := reading.result.map (entry.toList.map (·.candidate) ++ ·)
  notices := entry.toList.flatMap (·.notices) ++ reading.notices

/-- Reads lines of which the first has the given number, up to the first that is malformed. -/
def readLines (line : Nat) : List (List Char) → Reading
  | [] => ⟨.ok [], []⟩
  | text :: rest =>
    match readLine line text with
    | .ok entry => (readLines (line + 1) rest).add entry
    | .error error => ⟨.error error, []⟩

/-- Reads a list of candidates. -/
def parse (text : String) : Reading := readLines 1 (lines text.toList)

/-- Loads a list of candidates from a file with the given bytes. -/
def load (bytes : Option (List UInt8)) : Reading :=
  match readText bytes with
  | .ok text => parse text
  | .error cause => ⟨.error (.unreadable cause), []⟩

end Candidate

end CrawlFrontier
