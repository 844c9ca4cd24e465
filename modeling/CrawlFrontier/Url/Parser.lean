import CrawlFrontier.Text.Blank
import CrawlFrontier.Url.Segments

/-!
# Reading URLs

A reference is cut at its first number sign and its first question mark, and at the colon behind its
scheme. What is left is an authority with a path, a path alone, or plain text. A reference without
all its parts takes the others from a base.
-/

namespace CrawlFrontier.Url

open CrawlFrontier.Text

/-- The text without controls and spaces at its ends and without tabs and line ends inside. -/
def clean (text : List Char) : List Char :=
  (dropBothWhile (fun c => c.toNat ≤ 0x20) text).filter fun c => c ≠ '\t' ∧ c ≠ '\n' ∧ c ≠ '\r'

/-- A reference without its scheme, cut at its marks. -/
structure Reference where
  main : List Char
  query : Option (List Char)
  fragment : Option (List Char)

/-- Cuts a text at its marks. -/
def Reference.ofText (text : List Char) : Reference :=
  let (front, fragment) := splitFirst '#' text
  let (main, query) := splitFirst '?' front
  ⟨main, query, fragment⟩

/-- Whether a query or a fragment follows. -/
def Reference.hasMore (reference : Reference) : Bool :=
  reference.query.isSome || reference.fragment.isSome

/-- Whether a character may stand in a scheme behind its first letter. -/
def isSchemeChar (c : Char) : Bool := c.isAlphanum || c == '+' || c == '-' || c == '.'

/-- The scheme in lower case and what follows its colon. -/
def splitScheme? (text : List Char) : Option (String × List Char) :=
  match splitFirst ':' text with
  | (c :: front, some rest) =>
    if c.isAlpha && front.all isSchemeChar then some (String.ofList (lower (c :: front)), rest)
    else none
  | _ => none

/-- A query as it is kept. -/
def keepQuery (kind : SchemeClass) (query : List Char) : String :=
  String.ofList <|
    percentEncode (if kind = .general then escapedInQuery else escapedInSpecialQuery) query

/-- A fragment as it is kept. -/
def keepFragment (fragment : List Char) : String :=
  String.ofList (percentEncode escapedInFragment fragment)

/-- The URL with the query and the fragment of a reference. -/
def withMore (url : Url) (reference : Reference) : Url :=
  { url with
    query := reference.query.map (keepQuery (.ofScheme url.scheme))
    fragment := reference.fragment.map keepFragment }

/-- Whether a character counts as a slash in front of a host. -/
def isSlash (c : Char) : Bool := c == '/' || c == '\\'

/-- The host and what follows the colon behind it; colons between square brackets belong to the
host. -/
def splitHost (inside : Bool) : List Char → List Char × Option (List Char)
  | [] => ([], none)
  | c :: rest =>
    if c = ':' ∧ inside = false then ([], some rest)
    else
      let (host, port) := splitHost (c = '[' || (inside && c ≠ ']')) rest
      (c :: host, port)

/-- Reads a port, and returns what follows its digits. Only a backslash may follow. -/
def readPort (scheme : String) (text : List Char) :
    Except ParseError (Option UInt16 × List Char) :=
  let (digits, rest) := text.span Char.isDigit
  let value := (numeral? 10 digits).getD 0
  if 65535 < value ∨ (rest ≠ [] ∧ rest.head? ≠ some '\\') then .error .invalidPort
  else
    let port := UInt16.ofNat value
    .ok (if digits.isEmpty ∨ defaultPort? scheme = some port then none else some port, rest)

/-- Reads a host that may be followed by a port. -/
def readHost (scheme : String) (text : List Char) :
    Except ParseError (Host × Option UInt16 × List Char) := do
  let (hostText, portText) := splitHost false text
  if SchemeClass.ofScheme scheme ≠ .general ∧ hostText.isEmpty then throw .emptyHost
  let host ←
    if SchemeClass.ofScheme scheme = .general then Host.parseVerbatim hostText
    else Host.parse hostText
  match portText with
  | none => pure (host, none, [])
  | some portText =>
    if host.isEmpty then throw .emptyHost
    let (port, rest) ← readPort scheme portText
    pure (host, port, rest)

/-- Reads what follows the two slashes in front of a host. -/
def parseAuthority (scheme : String) (text : List Char) (reference : Reference) :
    Except ParseError Url := do
  let kind := SchemeClass.ofScheme scheme
  let (authority, path) := text.span fun c => !kind.separates c
  let (credentials, address) :=
    match splitLast? '@' authority with
    | some (credentials, address) => (credentials, address)
    | none => ([], authority)
  if authority = ['@'] ∧ (path ≠ [] ∨ reference.hasMore) then throw .emptyHost
  let (username, password) := splitFirst ':' credentials
  let password := password.getD []
  let (host, port, rest) ← readHost scheme address
  if host.isEmpty ∧ (username ≠ [] ∨ password ≠ []) then throw .emptyHost
  let url : Url :=
    { scheme
      username := String.ofList (percentEncode escapedInCredentials username)
      password := String.ofList (percentEncode escapedInCredentials password)
      host := some host
      port
      path := .segments (rootSegments kind (rest ++ path))
      query := none
      fragment := none }
  pure (url.withMore reference)

/-- The URL with its last segment left and a written path followed from there. -/
def atRelativePath (base : Url) (text : List Char) : Url :=
  let kind := SchemeClass.ofScheme base.scheme
  { base with path := .segments (follow kind (dropLast kind base.segments.reverse) text) }

/-- The base with what a reference without a path says. -/
def atSamePath (base : Url) (reference : Reference) : Url :=
  match reference.query with
  | none => { base with fragment := reference.fragment.map keepFragment }
  | some _ => base.withMore reference

/-- Reads a reference without a scheme, the base being no file. -/
def parseRelative (base : Url) (reference : Reference) : Except ParseError Url :=
  let kind := SchemeClass.ofScheme base.scheme
  match reference.main with
  | [] => .ok (base.atSamePath reference)
  | '/' :: '/' :: rest => parseAuthority base.scheme rest reference
  | c :: rest =>
    if isSlash c then
      if rest.head?.any isSlash then
        parseAuthority base.scheme (rest.dropWhile isSlash) reference
      else .ok (withMore { base with path := .segments (follow kind [] rest) } reference)
    else .ok ((base.atRelativePath (c :: rest)).withMore reference)

/-- A host for which nothing is printed. -/
def Host.empty : Host := .verbatim ""

/-- The URL of a file on the given host. -/
def ofFile (host : Host) (segments : List String) : Url :=
  { scheme := "file", username := "", password := "", host := some host, port := none
    path := .segments segments, query := none, fragment := none }

/-- Reads the host of a file and the path behind it. The host of this machine counts as none, and so
does any host of which the path begins at a drive. Without a host the slash in front of the path
begins an empty segment, so that no drive is the first. -/
def parseFileHost (text : List Char) : Except ParseError Url := do
  let (hostText, path) := text.span fun c => !isSlash c
  if isDrive hostText then pure (ofFile .empty (follow .file [] text))
  else if hostText.isEmpty then pure (ofFile .empty (follow .file [] path))
  else
    let host ← Host.parse hostText
    if host = .domain "localhost" then pure (ofFile .empty (follow .file [] path))
    else
      pure (ofFile (if beginsAtDrive (path.drop 1) then .empty else host) (rootSegments .file path))

/-- Reads a reference to a file without its scheme; the base, if there is one, is a file. -/
def parseFile (base : Option Url) (reference : Reference) : Except ParseError Url :=
  let alone := ofFile .empty (follow .file [] reference.main)
  match reference.main, base with
  | [], some base => .ok (base.atSamePath reference)
  | [], none => .ok (alone.withMore reference)
  | c :: rest, _ =>
    if isSlash c then
      if rest.head?.any isSlash then (parseFileHost (rest.drop 1)).map (·.withMore reference)
      else .ok ((atRoot base rest).withMore reference)
    else
      match base with
      | some base =>
        if startsWithDrive reference.main then .ok (alone.withMore reference)
        else .ok ((base.atRelativePath reference.main).withMore reference)
      | none => .ok (alone.withMore reference)
where
  /-- The file at a path that begins at the root of the base, or of its drive. -/
  atRoot (base : Option Url) (path : List Char) : Url :=
    match base with
    | none => ofFile .empty (follow .file [] path)
    | some base =>
      if startsWithDrive path then ofFile .empty (follow .file [] path)
      else
        match base.segments with
        | first :: _ =>
          if isKeptDrive first then ofFile .empty (follow .file [first] path)
          else ofFile (base.host.getD .empty) (follow .file [] path)
        | [] => ofFile (base.host.getD .empty) (follow .file [] path)

/-- Reads what follows the colon of a scheme. -/
def parseWithScheme (base : Option Url) (scheme : String) (reference : Reference) :
    Except ParseError Url :=
  let sameScheme := base.filter (·.scheme = scheme)
  match SchemeClass.ofScheme scheme with
  | .file => parseFile sameScheme reference
  | .special =>
    let absolute := parseAuthority scheme (reference.main.dropWhile isSlash) reference
    match sameScheme with
    | some base =>
      if 2 ≤ (reference.main.takeWhile isSlash).length then absolute
      else parseRelative base reference
    | none => absolute
  | .general =>
    let url (path : Path) : Url :=
      { scheme, username := "", password := "", host := none, port := none, path
        query := none, fragment := none }
    match reference.main with
    | '/' :: '/' :: rest => parseAuthority scheme rest reference
    | '/' :: rest => .ok ((url (.segments (follow .general [] rest))).withMore reference)
    | text =>
      .ok ((url (.verbatim (String.ofList (percentEncode isControl text)))).withMore reference)

/-- Reads a reference without a scheme. -/
def parseWithoutScheme (base : Option Url) (reference : Reference) : Except ParseError Url :=
  match base with
  | none => .error .relativeWithoutBase
  | some base =>
    match base.path with
    | .verbatim _ =>
      if reference.main.isEmpty && reference.query.isNone && reference.fragment.isSome then
        .ok (base.atSamePath reference)
      else .error .relativeToPlainText
    | .segments _ =>
      if base.scheme = "file" then parseFile (some base) reference
      else parseRelative base reference

/-- Reads a reference as it stands to a base, if there is one. -/
def parseFrom (base : Option Url) (text : List Char) : Except ParseError Url :=
  let reference := Reference.ofText (clean text)
  match splitScheme? reference.main with
  | some (scheme, rest) => parseWithScheme base scheme { reference with main := rest }
  | none => parseWithoutScheme base reference

/-- Reads a URL. -/
def parse (text : String) : Except ParseError Url := parseFrom none text.toList

/-- The URL that a reference on a page of the given URL names. -/
def join (base : Url) (reference : String) : Except ParseError Url :=
  parseFrom (some base) reference.toList

/-- The URL with another host. -/
def setHost (url : Url) (host : List Char) : Except ParseError Url := do
  pure { url with host := some (← Host.parse host) }

/-- The URL with another path, which is read as if it were written in the URL. -/
def setPath (url : Url) (path : List Char) : Url :=
  { url with path := .segments (rootSegments (.ofScheme url.scheme) path) }

end CrawlFrontier.Url
