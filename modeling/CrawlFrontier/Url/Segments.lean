import CrawlFrontier.Url.Basic

/-!
# Segments of a path

A written path is cut at its slashes. A single dot names the place itself and two dots the place
above; both may be escaped. Two dots never leave a drive letter, whatever the scheme. In a file URL a
drive at the root ends with a colon, and empty segments at the beginning have no meaning.
-/

namespace CrawlFrontier.Url

open CrawlFrontier.Text

/-- A segment with its escaped dots written out and its letters in lower case. -/
def unescapeDots : List Char → List Char
  | '%' :: '2' :: 'e' :: rest | '%' :: '2' :: 'E' :: rest => '.' :: unescapeDots rest
  | c :: rest => c :: unescapeDots rest
  | [] => []

/-- Whether a segment names the place itself. -/
def isSingleDot (piece : List Char) : Bool := unescapeDots piece == ['.']

/-- Whether a segment names the place above. -/
def isDoubleDot (piece : List Char) : Bool := unescapeDots piece == ['.', '.']

/-- Whether a text is a drive letter, with a colon or with a bar. -/
def isDrive : List Char → Bool
  | [letter, mark] => letter.isAlpha && (mark == ':' || mark == '|')
  | _ => false

/-- Whether the first segment of a text is a drive letter. -/
def startsWithDrive (text : List Char) : Bool :=
  isDrive (text.takeWhile fun c => c ≠ '/' ∧ c ≠ '\\')

/-- Whether a kept segment is a drive letter. -/
def isKeptDrive (segment : String) : Bool :=
  match segment.toList with
  | [letter, ':'] => letter.isAlpha
  | _ => false

/-- Leaves the last segment for the place above, given segments in reverse. A drive is not left, in
whatever scheme; where backslashes do not end a segment, one behind the drive belongs to it. -/
def leave : List String → List String
  | [] => []
  | last :: front => if startsWithDrive last.toList then last :: front else front

/-- The segments of a page in reverse without its own, with which a reference does not begin. The
drive of a file stays. -/
def dropLast (kind : SchemeClass) : List String → List String
  | [] => []
  | last :: front => if kind = .file ∧ isKeptDrive last then last :: front else front

/-- A segment as it is kept behind others, which are given in reverse. In a file URL the first one, if
it is a drive letter, ends with a colon. -/
def keepSegment (kind : SchemeClass) (front : List String) (piece : List Char) : String :=
  let escaped := percentEncode escapedInPath piece
  if kind = .file ∧ front = [] ∧ isDrive escaped then String.ofList [escaped.headD 'C', ':']
  else String.ofList escaped

/-- Goes through the pieces of a path, given in reverse the segments that are kept so far. A dot
segment at the end leaves an empty one, since what it names is a place and no document. -/
def walk (kind : SchemeClass) (front : List String) : List (List Char) → List String
  | [] => front.reverse
  | piece :: rest =>
    if isDoubleDot piece then walk kind (close (leave front) rest) rest
    else if isSingleDot piece then walk kind (close front rest) rest
    else walk kind (keepSegment kind front piece :: front) rest
where
  /-- The segments in front with an empty one behind them if no piece is left. -/
  close (front : List String) (rest : List (List Char)) : List String :=
    if rest.isEmpty then "" :: front else front

/-- The segments without empty ones at the beginning; one is left if there is no other. -/
def dropEmptyFront (segments : List String) : List String :=
  match segments.dropWhile (· = "") with
  | [] => [""]
  | rest => rest

/-- The segments that a written path leads to from a place, which is given in reverse. -/
def follow (kind : SchemeClass) (front : List String) (text : List Char) : List String :=
  let segments := walk kind front (text.splitOnP kind.separates)
  if kind = .file then dropEmptyFront segments else segments

/-- Whether a path of a file begins at a drive, empty segments counted. -/
def beginsAtDrive (text : List Char) : Bool :=
  (walk .file [] (text.splitOnP SchemeClass.file.separates)).head?.any isKeptDrive

/-- The segments of a path that begins at the root. -/
def rootSegments (kind : SchemeClass) (text : List Char) : List String :=
  match text with
  | [] => if kind = .general then [] else [""]
  | c :: rest => follow kind [] (if kind.separates c then rest else text)

end CrawlFrontier.Url
